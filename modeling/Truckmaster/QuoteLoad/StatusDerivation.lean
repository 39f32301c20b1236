import Truckmaster.QuoteLoad.Entities
import Mathlib.Data.List.Sort

namespace Truckmaster.QuoteLoad

structure StopProgressInput where
  stopType : StopType
  stopPurpose : StopPurpose
  status : StopStatus
  sequence : ℤ
  deriving DecidableEq, Repr

def StopProgressInput.untyped (s : StopProgressInput) : StopProgressInput := { s with stopType := .other }

def Stop.progress (s : Stop) : StopProgressInput := ⟨s.stopType, s.stopPurpose, s.status, s.sequence⟩

def LoadRows.progress (rows : LoadRows) : List StopProgressInput := rows.stops.rows.map Stop.progress

namespace LoadStatusDerivationService

def derivableStatuses : List LoadStatus := [.dispatched, .pickup, .inTransit]

def isStandard (s : StopProgressInput) : Bool := s.stopPurpose == .standard

def pickups (stops : List StopProgressInput) : List StopProgressInput :=
  stops.filter (fun s => s.stopType == .pickup && isStandard s)

def bySequence (a b : StopProgressInput) : Prop := a.sequence ≤ b.sequence

instance : DecidableRel bySequence := fun a b => inferInstanceAs (Decidable (a.sequence ≤ b.sequence))
instance : Std.Total bySequence := ⟨fun a b => le_total a.sequence b.sequence⟩
instance : IsTrans StopProgressInput bySequence := ⟨fun _ _ _ => le_trans⟩

def deliveries (stops : List StopProgressInput) : List StopProgressInput :=
  (stops.filter (fun s => s.stopType == .delivery && isStandard s)).insertionSort bySequence

def finalDelivery (stops : List StopProgressInput) : Option StopProgressInput :=
  (deliveries stops).getLast?

def allPickupsCompleted (stops : List StopProgressInput) : Bool :=
  (pickups stops).all (fun s => s.status == .completed)

def deriveLoadStatus (currentStatus : LoadStatus) (stops : List StopProgressInput) : LoadStatus :=
  if currentStatus ∉ derivableStatuses then currentStatus
  else if (finalDelivery stops).any (fun d => d.status == .completed) && allPickupsCompleted stops then
    .delivered
  else if allPickupsCompleted stops then .inTransit
  else if (pickups stops).any (fun s => s.status != .pending) then .pickup
  else currentStatus

variable {stops stops' : List StopProgressInput} {currentStatus c : LoadStatus}

lemma mem_pickups {s : StopProgressInput} :
    s ∈ pickups stops ↔ s ∈ stops ∧ s.stopType = .pickup ∧ s.stopPurpose = .standard := by
  simp [pickups, isStandard]

lemma mem_deliveries {s : StopProgressInput} :
    s ∈ deliveries stops ↔ s ∈ stops ∧ s.stopType = .delivery ∧ s.stopPurpose = .standard := by
  rw [deliveries, (List.perm_insertionSort _ _).mem_iff]
  simp [isStandard]

lemma allPickupsCompleted_iff :
    allPickupsCompleted stops = true ↔ ∀ s ∈ pickups stops, s.status = .completed := by
  simp [allPickupsCompleted]

lemma anyPickupStarted_iff :
    (pickups stops).any (fun s => s.status != .pending) = true ↔
      ∃ s ∈ pickups stops, s.status ≠ .pending := by simp

lemma finalDelivery_some {d : StopProgressInput} (h : finalDelivery stops = some d) :
    d ∈ deliveries stops ∧ ∀ e ∈ deliveries stops, e.sequence ≤ d.sequence := by
  obtain ⟨front, hsplit⟩ : ∃ front, deliveries stops = front ++ [d] :=
    List.getLast?_eq_some_iff.mp h
  have hsorted : (deliveries stops).Pairwise bySequence := List.pairwise_insertionSort bySequence _
  rw [hsplit] at hsorted ⊢
  refine ⟨by simp, fun e he => ?_⟩
  rcases List.mem_append.mp he with he | he
  · exact (List.pairwise_append.mp hsorted).2.2 e he d (by simp)
  · exact (congrArg StopProgressInput.sequence (List.mem_singleton.mp he)).le

lemma deriveLoadStatus_of_not_derivable (h : currentStatus ∉ derivableStatuses) :
    deriveLoadStatus currentStatus stops = currentStatus := if_pos h

lemma deriveLoadStatus_eq (h : currentStatus ∈ derivableStatuses) :
    deriveLoadStatus currentStatus stops =
      if (∃ d ∈ finalDelivery stops, d.status = .completed) ∧ ∀ s ∈ pickups stops, s.status = .completed then
        .delivered
      else if ∀ s ∈ pickups stops, s.status = .completed then .inTransit
      else if ∃ s ∈ pickups stops, s.status ≠ .pending then .pickup
      else currentStatus := by
  have hfinal : (finalDelivery stops).any (fun d => d.status == .completed) = true ↔
      ∃ d ∈ finalDelivery stops, d.status = .completed := by
    cases finalDelivery stops <;> simp
  simp only [deriveLoadStatus, h, not_true_eq_false, if_false, Bool.and_eq_true, hfinal,
    allPickupsCompleted_iff, anyPickupStarted_iff]

lemma deriveLoadStatus_started (h : currentStatus ∈ derivableStatuses) (hc : c ∈ derivableStatuses)
    (hs : currentStatus = c ∨ ∃ s ∈ pickups stops, s.status ≠ .pending) :
    deriveLoadStatus currentStatus stops = deriveLoadStatus c stops := by
  rcases hs with rfl | hs
  · rfl
  · rw [deriveLoadStatus_eq h, deriveLoadStatus_eq hc, if_pos hs, if_pos hs]

lemma deriveLoadStatus_unstarted (h : currentStatus ∈ derivableStatuses)
    (hp : ∃ s, s ∈ pickups stops) (hs : ∀ s ∈ pickups stops, s.status = .pending) :
    deriveLoadStatus currentStatus stops = currentStatus := by
  have hne : ¬ ∀ s ∈ pickups stops, s.status = .completed := by
    obtain ⟨s, hm⟩ := hp
    intro hall
    have hpending := hs s hm
    rw [hall s hm] at hpending
    cases hpending
  rw [deriveLoadStatus_eq h, if_neg (fun hd => hne hd.2), if_neg hne, if_neg]
  rintro ⟨s, hm, hstarted⟩
  exact hstarted (hs s hm)

lemma deriveLoadStatus_delivered (h : currentStatus ∈ derivableStatuses) :
    deriveLoadStatus currentStatus stops = .delivered ↔
      (∃ d ∈ finalDelivery stops, d.status = .completed) ∧ ∀ s ∈ pickups stops, s.status = .completed := by
  have hne : currentStatus ≠ .delivered := by
    rintro rfl
    simp [derivableStatuses] at h
  rw [deriveLoadStatus_eq h]
  constructor
  · intro hd
    by_contra hno
    rw [if_neg hno] at hd
    split_ifs at hd
    exact hne hd
  · intro hd
    rw [if_pos hd]

lemma pickups_of_inTransit (h : currentStatus ∈ derivableStatuses)
    (hstatus : deriveLoadStatus currentStatus stops = .inTransit) (hnew : currentStatus ≠ .inTransit) :
    ∀ s ∈ pickups stops, s.status = .completed := by
  rw [deriveLoadStatus_eq h] at hstatus
  split_ifs at hstatus with _ hall
  · exact hall
  · exact absurd hstatus hnew

lemma deriveLoadStatus_mem (stops : List StopProgressInput) (h : currentStatus ∈ derivableStatuses) :
    deriveLoadStatus currentStatus stops ∈ derivableStatuses ∨
      deriveLoadStatus currentStatus stops = .delivered := by
  rw [deriveLoadStatus_eq h]
  split_ifs
  · exact Or.inr rfl
  · exact Or.inl (by decide)
  · exact Or.inl (by decide)
  · exact Or.inl h

lemma deriveLoadStatus_congr (hp : ∀ s, s ∈ pickups stops ↔ s ∈ pickups stops')
    (hd : finalDelivery stops = finalDelivery stops') :
    deriveLoadStatus currentStatus stops = deriveLoadStatus currentStatus stops' := by
  by_cases h : currentStatus ∈ derivableStatuses
  · simp only [deriveLoadStatus_eq h, hp, hd]
  · rw [deriveLoadStatus_of_not_derivable h, deriveLoadStatus_of_not_derivable h]

lemma ofType_standard (h : stops.filter isStandard = stops'.filter isStandard) (t : StopType) :
    stops.filter (fun s => s.stopType == t && isStandard s) =
      stops'.filter (fun s => s.stopType == t && isStandard s) := by
  rw [← List.filter_filter, ← List.filter_filter, h]

lemma pickups_standard (h : stops.filter isStandard = stops'.filter isStandard) :
    pickups stops = pickups stops' := ofType_standard h .pickup

lemma deriveLoadStatus_standard (h : stops.filter isStandard = stops'.filter isStandard) :
    deriveLoadStatus currentStatus stops = deriveLoadStatus currentStatus stops' := by
  apply deriveLoadStatus_congr
  · simp only [pickups_standard h, implies_true]
  · simp only [finalDelivery, deliveries, ofType_standard h]

lemma finalDelivery_isSome (h : deliveries stops ≠ []) : ∃ d, finalDelivery stops = some d := by
  rw [← Option.isSome_iff_exists, finalDelivery, List.getLast?_isSome]
  exact h

lemma finalDelivery_eq_some (hnodup : (stops.map StopProgressInput.sequence).Nodup) {d : StopProgressInput} :
    finalDelivery stops = some d ↔ d ∈ deliveries stops ∧ ∀ e ∈ deliveries stops, e.sequence ≤ d.sequence := by
  refine ⟨finalDelivery_some, fun ⟨hd, hmax⟩ => ?_⟩
  obtain ⟨e, he⟩ := finalDelivery_isSome (List.ne_nil_of_mem hd)
  obtain ⟨hmem, hle⟩ := finalDelivery_some he
  have hseq : e.sequence = d.sequence := le_antisymm (hmax e hmem) (hle d hd)
  rw [he, List.inj_on_of_nodup_map hnodup (mem_deliveries.mp hmem).1 (mem_deliveries.mp hd).1 hseq]

lemma deriveLoadStatus_perm (h : stops.Perm stops')
    (hnodup : (stops.map StopProgressInput.sequence).Nodup) :
    deriveLoadStatus currentStatus stops = deriveLoadStatus currentStatus stops' := by
  have hnodup' : (stops'.map StopProgressInput.sequence).Nodup := (h.map _).nodup_iff.mp hnodup
  have hmem (s : StopProgressInput) : s ∈ deliveries stops ↔ s ∈ deliveries stops' := by
    rw [mem_deliveries, mem_deliveries, h.mem_iff]
  apply deriveLoadStatus_congr
  · intro s
    rw [mem_pickups, mem_pickups, h.mem_iff]
  · ext d
    simp only [finalDelivery_eq_some hnodup, finalDelivery_eq_some hnodup', hmem]

end LoadStatusDerivationService

end Truckmaster.QuoteLoad
