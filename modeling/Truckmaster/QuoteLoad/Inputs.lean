import Truckmaster.QuoteLoad.Entities

namespace Truckmaster.QuoteLoad

open Common

structure DecimalInput where
  text : String
  cents : ℕ
  deriving DecidableEq, Repr

structure PositiveDecimalInput where
  cents : ℕ
  pos : 0 < cents := by decide

/-- The largest amount of a column with twelve digits, two of them decimals. -/
def decimalMax : ℕ := 999999999999

structure StopDetails where
  companyName : String
  addressLine1 : String
  city : String
  state : String
  zip : String
  appointmentDatetime : Option Instant := none
  contactName : Option String := none
  contactPhone : Option String := none
  notes : Option String := none
  filled : 1 ≤ companyName.length ∧ 1 ≤ addressLine1.length ∧ 1 ≤ city.length ∧ 2 ≤ state.length ∧
    1 ≤ zip.length := by decide

structure LoadStopInput extends StopDetails where
  sequence : ℤ
  stopType : StopType
  customerLocationId : Option Uuid := none
  sequence_pos : 1 ≤ sequence := by decide

structure UpdateStopItem extends StopDetails where
  sequence : ℤ
  stopType : StopType
  sequence_pos : 1 ≤ sequence := by decide

structure ReturnStopInput extends StopDetails where
  customerLocationId : Option Uuid := none

namespace StopDetails

def newStop (d : StopDetails) (id : Uuid) (sequence : ℤ) (stopType : StopType) (stopPurpose : StopPurpose)
    (customerLocationId : Option Uuid) : Stop where
  id := id
  sequence := sequence
  stopType := stopType
  stopPurpose := stopPurpose
  customerLocationId := customerLocationId
  companyName := d.companyName
  addressLine1 := d.addressLine1
  city := d.city
  state := d.state
  zip := d.zip
  appointmentDatetime := d.appointmentDatetime
  contactName := d.contactName
  contactPhone := d.contactPhone
  notes := d.notes

end StopDetails

namespace UpdateStopItem

/-- A full-replace edit: an absent optional field clears the stored one. -/
def nextValues (item : UpdateStopItem) (stop : Stop) : Stop :=
  { stop with
    stopType := item.stopType
    companyName := item.companyName
    addressLine1 := item.addressLine1
    city := item.city
    state := item.state
    zip := item.zip
    appointmentDatetime := item.appointmentDatetime
    contactName := item.contactName
    contactPhone := item.contactPhone
    notes := item.notes }

def fieldChanges (item : UpdateStopItem) (stop : Stop) : List String :=
  let next := item.nextValues stop
  [("stopType", decide (stop.stopType ≠ next.stopType)),
    ("companyName", decide (stop.companyName ≠ next.companyName)),
    ("addressLine1", decide (stop.addressLine1 ≠ next.addressLine1)),
    ("city", decide (stop.city ≠ next.city)),
    ("state", decide (stop.state ≠ next.state)),
    ("zip", decide (stop.zip ≠ next.zip)),
    ("appointmentDatetime", decide (stop.appointmentDatetime ≠ next.appointmentDatetime)),
    ("contactName", decide (stop.contactName ≠ next.contactName)),
    ("contactPhone", decide (stop.contactPhone ≠ next.contactPhone)),
    ("notes", decide (stop.notes ≠ next.notes))].filterMap
      (fun change => if change.2 then some change.1 else none)

@[simp] lemma nextValues_id (item : UpdateStopItem) (stop : Stop) : (item.nextValues stop).id = stop.id := rfl

@[simp] lemma nextValues_sequence (item : UpdateStopItem) (stop : Stop) :
    (item.nextValues stop).sequence = stop.sequence := rfl

@[simp] lemma nextValues_stopPurpose (item : UpdateStopItem) (stop : Stop) :
    (item.nextValues stop).stopPurpose = stop.stopPurpose := rfl

@[simp] lemma nextValues_status (item : UpdateStopItem) (stop : Stop) :
    (item.nextValues stop).status = stop.status := rfl

lemma fieldChanges_eq_nil {item : UpdateStopItem} {stop : Stop} :
    item.fieldChanges stop = [] ↔ item.nextValues stop = stop := by
  obtain ⟨⟩ := stop
  simp only [fieldChanges, List.filterMap_eq_nil_iff, List.forall_mem_cons, nextValues, Stop.mk.injEq]
  simp only [ne_eq, ite_eq_right_iff, reduceCtorEq, imp_false, Bool.not_eq_true]
  grind

end UpdateStopItem

end Truckmaster.QuoteLoad
