import Truckmaster.QuoteLoad.AgreedTerms
import Truckmaster.Documents.FamilyVersions

namespace Truckmaster.QuoteLoad

open Common Documents Fallible Tables

namespace LoadPodStatusService

def isDeliveryStop (s : Stop) : Bool := s.stopType == .delivery && s.stopPurpose == .standard

def deliveryStops (stops : List Stop) : List Stop := stops.filter isDeliveryStop

def isCleanPod (documentTypes : List DocumentTypeDefinition) (v : DocumentVersion) : Bool :=
  v.entityType == .stop && v.isCurrentVersion && v.scanStatus == .clean &&
    documentTypes.any (fun t => t.id == v.documentTypeId && t.code == "POD")

def stopsWithPod (documentTypes : List DocumentTypeDefinition) (documents : List DocumentVersion) (stops : List Stop) :
    List Uuid :=
  ((documents.filter (fun v => isCleanPod documentTypes v && (stops.map Stop.id).contains v.entityId)).map
    (fun v => v.entityId)).dedup

def derivePodStatus (documentTypes : List DocumentTypeDefinition) (documents : List DocumentVersion)
    (stops : List Stop) : PodStatus :=
  let delivery := deliveryStops stops
  let withPod := stopsWithPod documentTypes documents delivery
  if withPod.length = 0 then .notReceived
  else if withPod.length < delivery.length then .partlyReceived
  else .complete

def recalculatePodStatus (documentTypes : List DocumentTypeDefinition) (documents : List DocumentVersion)
    (rows : LoadRows) : LoadRows :=
  let podStatus := derivePodStatus documentTypes documents rows.stops.rows
  if podStatus = rows.load.podStatus then rows
  else
    { rows with load := { rows.load with podStatus } }.record
      ⟨"POD Milestone Updated", "Load", rows.load.id, none, .system, none⟩

def HasPod (documentTypes : List DocumentTypeDefinition) (documents : List DocumentVersion) (s : Stop) : Prop :=
  ∃ v ∈ documents, isCleanPod documentTypes v ∧ v.entityId = s.id

def SomePod (documentTypes : List DocumentTypeDefinition) (documents : List DocumentVersion) (stops : List Stop) : Prop :=
  ∃ s ∈ deliveryStops stops, HasPod documentTypes documents s

def EveryPod (documentTypes : List DocumentTypeDefinition) (documents : List DocumentVersion) (stops : List Stop) : Prop :=
  ∀ s ∈ deliveryStops stops, HasPod documentTypes documents s

instance (documentTypes : List DocumentTypeDefinition) (documents : List DocumentVersion) (s : Stop) :
    Decidable (HasPod documentTypes documents s) := inferInstanceAs (Decidable (∃ v ∈ documents, _))

instance (documentTypes : List DocumentTypeDefinition) (documents : List DocumentVersion) (stops : List Stop) :
    Decidable (SomePod documentTypes documents stops) := inferInstanceAs (Decidable (∃ s ∈ _, _))

instance (documentTypes : List DocumentTypeDefinition) (documents : List DocumentVersion) (stops : List Stop) :
    Decidable (EveryPod documentTypes documents stops) := inferInstanceAs (Decidable (∀ s ∈ _, _))

variable {documentTypes : List DocumentTypeDefinition} {documents documents' : List DocumentVersion}
  {stops stops' : List Stop} {rows : LoadRows}

lemma mem_stopsWithPod {id : Uuid} :
    id ∈ stopsWithPod documentTypes documents stops ↔ ∃ s ∈ stops, s.id = id ∧ HasPod documentTypes documents s := by
  simp only [stopsWithPod, List.mem_dedup, List.mem_map, List.mem_filter, Bool.and_eq_true, List.contains_iff_mem]
  constructor
  · rintro ⟨v, ⟨hv, hclean, s, hs, hid⟩, rfl⟩
    exact ⟨s, hs, hid, v, hv, hclean, hid.symm⟩
  · rintro ⟨s, hs, rfl, v, hv, hclean, hid⟩
    exact ⟨v, ⟨hv, hclean, s, hs, hid.symm⟩, hid⟩

lemma length_lt_iff {α : Type} {l l' : List α} (hl : l.Nodup) (hl' : l'.Nodup) (hsub : l ⊆ l') :
    l.length < l'.length ↔ ∃ a ∈ l', a ∉ l := by
  constructor
  · intro hlt
    by_contra h
    push Not at h
    exact absurd (hl'.subperm h).length_le (Nat.not_le_of_lt hlt)
  · rintro ⟨a, ha, hnot⟩
    by_contra h
    exact hnot (((hl.subperm hsub).perm_of_length_le (Nat.le_of_not_lt h)).mem_iff.mpr ha)

lemma derivePodStatus_eq (hstops : (stops.map Stop.id).Nodup) :
    derivePodStatus documentTypes documents stops =
      if SomePod documentTypes documents stops then
        if EveryPod documentTypes documents stops then .complete else .partlyReceived
      else .notReceived := by
  have hsub : stopsWithPod documentTypes documents (deliveryStops stops) ⊆ (deliveryStops stops).map Stop.id := by
    intro id hid
    obtain ⟨s, hs, rfl, _⟩ := mem_stopsWithPod.mp hid
    exact List.mem_map_of_mem hs
  have hnodup : ((deliveryStops stops).map Stop.id).Nodup := hstops.sublist (List.filter_sublist.map _)
  have hdistinct : (stopsWithPod documentTypes documents (deliveryStops stops)).Nodup := List.nodup_dedup _
  have hnone : (stopsWithPod documentTypes documents (deliveryStops stops)).length = 0 ↔
      ¬ SomePod documentTypes documents stops := by
    rw [List.length_eq_zero_iff, List.eq_nil_iff_forall_not_mem]
    simp only [mem_stopsWithPod, SomePod]
    constructor
    · rintro h ⟨s, hs, hpod⟩
      exact h s.id ⟨s, hs, rfl, hpod⟩
    · rintro h id ⟨s, hs, _, hpod⟩
      exact h ⟨s, hs, hpod⟩
  have hall : (stopsWithPod documentTypes documents (deliveryStops stops)).length < (deliveryStops stops).length ↔
      ¬ EveryPod documentTypes documents stops := by
    rw [← List.length_map (Stop.id), length_lt_iff hdistinct hnodup hsub, EveryPod]
    push Not
    constructor
    · rintro ⟨id, hid, hnot⟩
      obtain ⟨s, hs, rfl⟩ := List.mem_map.mp hid
      exact ⟨s, hs, fun hpod => hnot (mem_stopsWithPod.mpr ⟨s, hs, rfl, hpod⟩)⟩
    · rintro ⟨s, hs, hnot⟩
      refine ⟨s.id, List.mem_map_of_mem hs, fun hid => hnot ?_⟩
      obtain ⟨s', hs', hsame, hpod⟩ := mem_stopsWithPod.mp hid
      exact List.inj_on_of_nodup_map hnodup hs' hs hsame ▸ hpod
  simp only [derivePodStatus, hnone, hall]
  split_ifs <;> tauto

@[simp] lemma recalculatePodStatus_stops :
    (recalculatePodStatus documentTypes documents rows).stops = rows.stops := by
  simp only [recalculatePodStatus]
  split <;> rfl

lemma recalculatePodStatus_podStatus :
    (recalculatePodStatus documentTypes documents rows).load.podStatus =
      derivePodStatus documentTypes documents rows.stops.rows := by
  simp only [recalculatePodStatus]
  split
  next h => exact h.symm
  next h => rfl

end LoadPodStatusService

end Truckmaster.QuoteLoad
