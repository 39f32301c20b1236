import Truckmaster.Library.Fallible
import Truckmaster.Library.JsonValues
import Truckmaster.RateConfirmationExtraction.LocalRateConfirmationExtractor

/-! The validation of what a language model gives the extraction tool. -/

namespace Truckmaster.RateConfirmationExtraction

open QuoteLoad

def isObject : Json → Bool
  | .array _ => true
  | .object _ => true
  | _ => false

/-- The last member of a name is the one that counts. -/
def property (name : String) : Json → Option Json
  | .object members => (members.reverse.find? (fun m => m.1 == name)).map Prod.snd
  | _ => none

def nullableString : Option Json → Option String
  | some (.string s) => if s.length > 0 then some s else none
  | _ => none

def parseStopType : Option Json → Option ExtractedStopType
  | some (.string "PICKUP") => some .pickup
  | some (.string "DELIVERY") => some .delivery
  | _ => none

def parseEquipmentType : Option Json → Option EquipmentType
  | some (.string "DRY_VAN") => some .dryVan
  | some (.string "REEFER") => some .reefer
  | some (.string "FLATBED") => some .flatbed
  | _ => none

def parseStop (rawStop : Json) (index : ℕ) : Except String ExtractedStop :=
  if !isObject rawStop then .error ("Extraction tool input: stops[" ++ toString index ++ "] was not an object.")
  else match parseStopType (property "stopType" rawStop) with
    | none => .error ("Extraction tool input: stops[" ++ toString index ++ "].stopType was not PICKUP/DELIVERY.")
    | some stopType => .ok {
        stopType
        companyName := nullableString (property "companyName" rawStop)
        addressLine1 := nullableString (property "addressLine1" rawStop)
        city := nullableString (property "city" rawStop)
        state := nullableString (property "state" rawStop)
        zip := nullableString (property "zip" rawStop)
        contactName := nullableString (property "contactName" rawStop)
        contactPhone := nullableString (property "contactPhone" rawStop)
        appointmentDatetime := nullableString (property "appointmentDatetime" rawStop) }

def parseExtractedCustomer (raw : Json) : Option ExtractedCustomer :=
  (nullableString (property "extractedName" raw)).map (fun extractedName => {
    extractedName
    billingAddressLine1 := nullableString (property "billingAddressLine1" raw)
    billingCity := nullableString (property "billingCity" raw)
    billingState := nullableString (property "billingState" raw)
    billingZip := nullableString (property "billingZip" raw)
    primaryContactName := nullableString (property "primaryContactName" raw)
    primaryContactEmail := nullableString (property "primaryContactEmail" raw)
    primaryContactPhone := nullableString (property "primaryContactPhone" raw) })

def parseUnmappedField (f : Json) : Option UnmappedField :=
  match property "label" f, property "value" f with
  | some (.string label), some (.string value) => some ⟨label, value⟩
  | _, _ => none

def parseWarning : Json → Option Warning
  | .string text => some (.other text)
  | _ => none

/-- The elements of an array that can be read; another value has none. -/
def readable {α : Type} (read : Json → Option α) : Option Json → List α
  | some (.array items) => items.filterMap read
  | _ => []

def multiLoad : Option Json → Bool
  | some (.bool b) => b
  | _ => false

def parseExtractionToolInput (input : Json) : Except String RateConfirmationExtractionOutcome :=
  if !isObject input then .error "Extraction tool input was not an object."
  else if multiLoad (property "multiLoadDetected" input) then .ok .multiLoadDetected
  else match property "stops" input with
    | some (.array rawStops) => do
      let stops ← rawStops.zipIdx.mapM (fun e => parseStop e.1 e.2)
      .ok (.data {
        customer := (property "customer" input).bind parseExtractedCustomer
        equipmentType := parseEquipmentType (property "equipmentType" input)
        customerRate := nullableString (property "customerRate" input)
        customerPoNumber := nullableString (property "customerPoNumber" input)
        bolNumber := nullableString (property "bolNumber" input)
        pickupNumber := nullableString (property "pickupNumber" input)
        customerReferenceNumber := nullableString (property "customerReferenceNumber" input)
        stops
        warnings := readable parseWarning (property "warnings" input)
        unmappedFields := readable parseUnmappedField (property "unmappedFields" input) })
    | _ => .error "Extraction tool input is missing a stops array."

def ValidStop (rawStop : Json) : Prop := (parseStopType (property "stopType" rawStop)).isSome = true

structure Validated (input : Json) (rawStops : List Json) : Prop where
  single : multiLoad (property "multiLoadDetected" input) = false
  stops : property "stops" input = some (.array rawStops)
  valid : ∀ rawStop ∈ rawStops, ValidStop rawStop

section Validation

variable {input rawStop : Json} {data : ExtractedRateConfirmationData} {stop : ExtractedStop} {index : ℕ}

lemma parseStop_ok (hvalid : ValidStop rawStop) (index : ℕ) : ∃ stop, parseStop rawStop index = .ok stop ∧
    stop.appointmentDatetime = nullableString (property "appointmentDatetime" rawStop) := by
  obtain ⟨stopType, htype⟩ := Option.isSome_iff_exists.mp hvalid
  have hobject : isObject rawStop = true := by
    cases rawStop with
    | object members => rfl
    | _ => cases htype
  rw [parseStop, hobject, htype]
  exact ⟨_, rfl, rfl⟩

lemma parseStop_eq_ok (h : parseStop rawStop index = .ok stop) : ValidStop rawStop ∧
    stop.appointmentDatetime = nullableString (property "appointmentDatetime" rawStop) := by
  rw [parseStop] at h
  split at h
  · cases h
  · split at h
    case h_1 => cases h
    case h_2 stopType htype =>
      obtain rfl := Except.ok.inj h
      exact ⟨by rw [ValidStop, htype]; rfl, rfl⟩

lemma isObject_of_property {name : String} {value : Json} (h : property name input = some value) : isObject input = true := by
  cases input with
  | object members => rfl
  | _ => cases h

lemma parse_of_validated {rawStops : List Json} (h : Validated input rawStops) :
    ∃ data, parseExtractionToolInput input = .ok (.data data) := by
  obtain ⟨stops, hstops⟩ := Fallible.exists_mapM_ok (f := fun e : Json × ℕ => parseStop e.1 e.2) (fun e he => by
    obtain ⟨stop, hstop, _⟩ := parseStop_ok (h.valid e.1 (List.fst_mem_of_mem_zipIdx he)) e.2
    exact ⟨stop, hstop⟩)
  rw [parseExtractionToolInput, isObject_of_property h.stops, h.single, h.stops]
  exact ⟨_, Fallible.bind_eq_ok.mpr ⟨stops, hstops, rfl⟩⟩

lemma validated_of_parse (h : parseExtractionToolInput input = .ok (.data data)) : ∃ rawStops, Validated input rawStops ∧
    data.customerRate = nullableString (property "customerRate" input) ∧
    List.Forall₂ (fun rawStop stop => stop.appointmentDatetime = nullableString (property "appointmentDatetime" rawStop))
      rawStops data.stops := by
  rw [parseExtractionToolInput] at h
  split_ifs at h with hobject hmulti
  · cases h
  split at h
  case h_2 => cases h
  case h_1 rawStops hstops =>
    obtain ⟨stops, hread, hdata⟩ := Fallible.bind_eq_ok.mp h
    obtain rfl := RateConfirmationExtractionOutcome.data.inj (Except.ok.inj hdata)
    have hparsed : List.Forall₂ (fun rawStop stop => ValidStop rawStop ∧
        stop.appointmentDatetime = nullableString (property "appointmentDatetime" rawStop)) rawStops stops := by
      rw [← List.zipIdx_map_fst 0 rawStops, List.forall₂_map_left_iff]
      exact (Fallible.mapM_eq_ok.mp hread).imp (fun e stop hstop => parseStop_eq_ok hstop)
    refine ⟨rawStops, ⟨Bool.eq_false_iff.mpr hmulti, hstops, ?_⟩, rfl, hparsed.imp (fun _ _ hstop => hstop.2)⟩
    exact fun rawStop hmem => ((List.forall₂_and_left _ _).mp hparsed).1 rawStop hmem

end Validation

end Truckmaster.RateConfirmationExtraction
