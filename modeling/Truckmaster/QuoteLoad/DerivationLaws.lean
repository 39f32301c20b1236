import Truckmaster.QuoteLoad.StatusDerivation

namespace Truckmaster.QuoteLoad

/-- The order of the lifecycle: what is not yet dispatched first, then the tracked statuses, CLOSED last. -/
def progressRank : LoadStatus → ℕ
  | .booked => 0
  | .carrierSourcing => 0
  | .carrierAssigned => 0
  | .rateConfirmation => 0
  | .cancelled => 0
  | .dispatched => 1
  | .pickup => 2
  | .inTransit => 3
  | .delivered => 4
  | .closed => 5

namespace LoadStatusDerivationService

variable {stops stops' front back : List StopProgressInput} {currentStatus : LoadStatus}
  {s stop : StopProgressInput} {after status : StopStatus}

def counted (s : StopProgressInput) : Bool := s.stopType != .other && isStandard s

inductive Advances : StopStatus → StopStatus → Prop
  | arrive : Advances .pending .arrived
  | depart : Advances .arrived .completed

lemma Advances.unfinished (h : Advances status after) : status ≠ .completed := by cases h <;> simp

lemma Advances.started (h : Advances status after) : after ≠ .pending := by cases h <;> simp

lemma ofType_counted {t : StopType} (ht : t ≠ .other) (stops : List StopProgressInput) :
    stops.filter (fun s => s.stopType == t && isStandard s) =
      (stops.filter counted).filter (fun s => s.stopType == t) := by
  rw [List.filter_filter]
  refine List.filter_congr fun s _ => Bool.eq_iff_iff.mpr ?_
  simp only [counted, Bool.and_eq_true, beq_iff_eq, bne_iff_ne, and_congr_right_iff]
  rintro rfl
  exact ⟨fun h => ⟨ht, h⟩, And.right⟩

lemma counted_filter (stops : List StopProgressInput) : (stops.filter counted).filter counted = stops.filter counted := by
  rw [List.filter_filter]
  simp

lemma mem_pickups_counted : s ∈ pickups stops ↔ s ∈ stops.filter counted ∧ s.stopType = .pickup := by
  rw [pickups, ofType_counted (by decide), List.mem_filter, beq_iff_eq]

lemma deliveries_counted : deliveries stops = deliveries (stops.filter counted) := by
  rw [deliveries, deliveries, ofType_counted (by decide), ofType_counted (by decide), counted_filter]

lemma finalDelivery_counted : finalDelivery stops = finalDelivery (stops.filter counted) := by
  rw [finalDelivery, finalDelivery, deliveries_counted]

lemma deriveLoadStatus_counted (hnodup : (stops.map StopProgressInput.sequence).Nodup)
    (h : (stops.filter counted).Perm (stops'.filter counted)) :
    deriveLoadStatus currentStatus stops = deriveLoadStatus currentStatus stops' := by
  have hself (l : List StopProgressInput) :
      deriveLoadStatus currentStatus l = deriveLoadStatus currentStatus (l.filter counted) := by
    refine deriveLoadStatus_congr (fun s => ?_) finalDelivery_counted
    rw [mem_pickups_counted, mem_pickups_counted, counted_filter]
  have hcounted : ((stops.filter counted).map StopProgressInput.sequence).Nodup :=
    hnodup.sublist (List.filter_sublist.map _)
  rw [hself stops, hself stops', deriveLoadStatus_perm h hcounted]

lemma deriveLoadStatus_idem (currentStatus : LoadStatus) (stops : List StopProgressInput) :
    deriveLoadStatus (deriveLoadStatus currentStatus stops) stops = deriveLoadStatus currentStatus stops := by
  by_cases h : currentStatus ∈ derivableStatuses
  · rcases deriveLoadStatus_mem stops h with hmem | hdelivered
    · rw [deriveLoadStatus_eq hmem, deriveLoadStatus_eq h]
      split_ifs <;> rfl
    · rw [hdelivered]
      rfl
  · rw [deriveLoadStatus_of_not_derivable h, deriveLoadStatus_of_not_derivable h]

def Restated (stops stops' : List StopProgressInput) (stop : StopProgressInput) (after : StopStatus) : Prop :=
  ∃ front back, stops = front ++ stop :: back ∧ stops' = front ++ { stop with status := after } :: back

namespace Restated

variable (h : Restated stops stops' stop after)
include h

lemma sequences_eq : stops'.map StopProgressInput.sequence = stops.map StopProgressInput.sequence := by
  obtain ⟨front, back, rfl, rfl⟩ := h
  simp

lemma mem_iff : ∃ rest : List StopProgressInput, (∀ s, s ∈ stops ↔ s = stop ∨ s ∈ rest) ∧
    ∀ s, s ∈ stops' ↔ s = { stop with status := after } ∨ s ∈ rest := by
  obtain ⟨front, back, rfl, rfl⟩ := h
  refine ⟨front ++ back, fun s => ?_, fun s => ?_⟩ <;> simp only [List.mem_append, List.mem_cons] <;> tauto

lemma pickup_exists (hp : ∃ s, s ∈ pickups stops) : ∃ s, s ∈ pickups stops' := by
  obtain ⟨rest, hmem, hmem'⟩ := h.mem_iff
  obtain ⟨s, hs⟩ := hp
  obtain ⟨hs, htype, hpurpose⟩ := mem_pickups.mp hs
  rcases (hmem s).mp hs with rfl | hrest
  · exact ⟨_, mem_pickups.mpr ⟨(hmem' _).mpr (Or.inl rfl), htype, hpurpose⟩⟩
  · exact ⟨s, mem_pickups.mpr ⟨(hmem' s).mpr (Or.inr hrest), htype, hpurpose⟩⟩

lemma pickups_completed (hbefore : stop.status ≠ .completed) (hall : ∀ s ∈ pickups stops, s.status = .completed) :
    ∀ s ∈ pickups stops', s.status = .completed := by
  obtain ⟨rest, hmem, hmem'⟩ := h.mem_iff
  intro s hs
  obtain ⟨hs, htype, hpurpose⟩ := mem_pickups.mp hs
  rcases (hmem' s).mp hs with rfl | hrest
  · exact absurd (hall stop (mem_pickups.mpr ⟨(hmem stop).mpr (Or.inl rfl), htype, hpurpose⟩)) hbefore
  · exact hall s (mem_pickups.mpr ⟨(hmem s).mpr (Or.inr hrest), htype, hpurpose⟩)

lemma pickups_pending (hafter : after ≠ .pending) (hall : ∀ s ∈ pickups stops', s.status = .pending) :
    ∀ s ∈ pickups stops, s.status = .pending := by
  obtain ⟨rest, hmem, hmem'⟩ := h.mem_iff
  intro s hs
  obtain ⟨hs, htype, hpurpose⟩ := mem_pickups.mp hs
  rcases (hmem s).mp hs with rfl | hrest
  · exact absurd (hall _ (mem_pickups.mpr ⟨(hmem' _).mpr (Or.inl rfl), htype, hpurpose⟩)) hafter
  · exact hall s (mem_pickups.mpr ⟨(hmem' s).mpr (Or.inr hrest), htype, hpurpose⟩)

lemma pickups_started (hafter : after ≠ .pending) (hstarted : ∃ s ∈ pickups stops, s.status ≠ .pending) :
    ∃ s ∈ pickups stops', s.status ≠ .pending := by
  by_contra hnone
  push Not at hnone
  obtain ⟨s, hs, hne⟩ := hstarted
  exact hne (h.pickups_pending hafter hnone s hs)

lemma final_completed (hbefore : stop.status ≠ .completed) (hnodup : (stops.map StopProgressInput.sequence).Nodup)
    (hfinal : ∃ f ∈ finalDelivery stops, f.status = .completed) :
    ∃ f ∈ finalDelivery stops', f.status = .completed := by
  obtain ⟨rest, hmem, hmem'⟩ := h.mem_iff
  obtain ⟨f, hf, hcompleted⟩ := hfinal
  obtain ⟨hdelivery, hmax⟩ := (finalDelivery_eq_some hnodup).mp hf
  obtain ⟨hin, htype, hpurpose⟩ := mem_deliveries.mp hdelivery
  have hrest : f ∈ rest := by
    rcases (hmem f).mp hin with rfl | hrest
    · exact absurd hcompleted hbefore
    · exact hrest
  refine ⟨f, (finalDelivery_eq_some (h.sequences_eq ▸ hnodup)).mpr ⟨?_, fun e he => ?_⟩, hcompleted⟩
  · exact mem_deliveries.mpr ⟨(hmem' f).mpr (Or.inr hrest), htype, hpurpose⟩
  · obtain ⟨hine, htypee, hpurposee⟩ := mem_deliveries.mp he
    rcases (hmem' e).mp hine with rfl | hreste
    · exact hmax stop (mem_deliveries.mpr ⟨(hmem stop).mpr (Or.inl rfl), htypee, hpurposee⟩)
    · exact hmax e (mem_deliveries.mpr ⟨(hmem e).mpr (Or.inr hreste), htypee, hpurposee⟩)

end Restated

lemma derive_mono (hc : currentStatus ∈ derivableStatuses)
    (hfinal : (∃ f ∈ finalDelivery stops, f.status = .completed) → ∃ f ∈ finalDelivery stops', f.status = .completed)
    (hcompleted : (∀ s ∈ pickups stops, s.status = .completed) → ∀ s ∈ pickups stops', s.status = .completed)
    (hstarted : (∃ s ∈ pickups stops, s.status ≠ .pending) → ∃ s ∈ pickups stops', s.status ≠ .pending)
    (hpast : currentStatus = .inTransit → (∃ s ∈ pickups stops', s.status ≠ .pending) →
      ∃ s ∈ pickups stops, s.status ≠ .pending) :
    progressRank (deriveLoadStatus currentStatus stops) ≤ progressRank (deriveLoadStatus currentStatus stops') := by
  have hcurrent : currentStatus = .inTransit ∨ progressRank currentStatus ≤ progressRank .pickup := by
    simp only [derivableStatuses, List.mem_cons, List.not_mem_nil, or_false] at hc
    rcases hc with rfl | rfl | rfl <;> decide
  rw [deriveLoadStatus_eq hc, deriveLoadStatus_eq hc]
  by_cases hall : ∀ s ∈ pickups stops, s.status = .completed
  · have hall' := hcompleted hall
    by_cases hdone : ∃ f ∈ finalDelivery stops, f.status = .completed
    · rw [if_pos ⟨hdone, hall⟩, if_pos ⟨hfinal hdone, hall'⟩]
    · rw [if_neg (fun h => hdone h.1), if_pos hall, if_pos hall']
      split_ifs <;> decide
  · rw [if_neg (fun h => hall h.2), if_neg hall]
    by_cases hstart : ∃ s ∈ pickups stops, s.status ≠ .pending
    · rw [if_pos hstart, if_pos (hstarted hstart)]
      split_ifs <;> decide
    · rw [if_neg hstart]
      rcases hcurrent with rfl | hle
      · rw [if_neg (fun h => hstart (hpast rfl h))]
        split_ifs <;> decide
      · split_ifs
        all_goals first | exact le_rfl | exact hle.trans (by decide)

/-- An IN_TRANSIT Load none of whose pickups has begun goes back to PICKUP with the first of them. -/
lemma Restated.falls_back (h : Restated stops stops' stop after) (ha : Advances stop.status after)
    (hstop : stop ∈ pickups stops) (hpending : ∀ s ∈ pickups stops, s.status = .pending) :
    deriveLoadStatus .inTransit stops = .inTransit ∧ deriveLoadStatus .inTransit stops' = .pickup := by
  refine ⟨deriveLoadStatus_unstarted (by decide) ⟨stop, hstop⟩ hpending, ?_⟩
  obtain ⟨hmem, htype, hpurpose⟩ := mem_pickups.mp hstop
  obtain ⟨rest, -, hmem'⟩ := h.mem_iff
  have hmoved : { stop with status := after } ∈ pickups stops' :=
    mem_pickups.mpr ⟨(hmem' _).mpr (Or.inl rfl), htype, hpurpose⟩
  have harrived : after = .arrived := by
    rw [hpending stop hstop] at ha
    cases ha
    rfl
  have hopen : ¬ ∀ s ∈ pickups stops', s.status = .completed := by
    intro hall
    have hcompleted : after = .completed := hall _ hmoved
    rw [harrived] at hcompleted
    cases hcompleted
  rw [deriveLoadStatus_eq (by decide), if_neg (fun hd => hopen hd.2), if_neg hopen,
    if_pos ⟨_, hmoved, ha.started⟩]

lemma Restated.mono (h : Restated stops stops' stop after) (ha : Advances stop.status after)
    (hnodup : (stops.map StopProgressInput.sequence).Nodup)
    (hpast : ¬ (currentStatus = .inTransit ∧ stop ∈ pickups stops ∧ ∀ s ∈ pickups stops, s.status = .pending)) :
    progressRank (deriveLoadStatus currentStatus stops) ≤ progressRank (deriveLoadStatus currentStatus stops') := by
  by_cases hc : currentStatus ∈ derivableStatuses
  · refine derive_mono hc (h.final_completed ha.unfinished hnodup) (h.pickups_completed ha.unfinished)
      (h.pickups_started ha.started) (fun htransit hstarted => ?_)
    by_contra hnone
    push Not at hnone
    obtain ⟨s, hs, hne⟩ := hstarted
    obtain ⟨hs, htype, hpurpose⟩ := mem_pickups.mp hs
    obtain ⟨rest, hmem, hmem'⟩ := h.mem_iff
    rcases (hmem' s).mp hs with rfl | hrest
    · exact hpast ⟨htransit, mem_pickups.mpr ⟨(hmem stop).mpr (Or.inl rfl), htype, hpurpose⟩, hnone⟩
    · exact hne (hnone s (mem_pickups.mpr ⟨(hmem s).mpr (Or.inr hrest), htype, hpurpose⟩))
  · rw [deriveLoadStatus_of_not_derivable hc, deriveLoadStatus_of_not_derivable hc]

theorem derivation_laws (currentStatus : LoadStatus) (stops : List StopProgressInput)
    (hnodup : (stops.map StopProgressInput.sequence).Nodup) :
    (∀ stops', stops.Perm stops' → deriveLoadStatus currentStatus stops' = deriveLoadStatus currentStatus stops) ∧
    (∀ stops', stops'.filter counted = stops.filter counted →
      deriveLoadStatus currentStatus stops' = deriveLoadStatus currentStatus stops) ∧
    deriveLoadStatus (deriveLoadStatus currentStatus stops) stops = deriveLoadStatus currentStatus stops ∧
    ((∃ s, s ∈ pickups stops) → ∀ stops' stop after, Restated stops stops' stop after → Advances stop.status after →
      (progressRank (deriveLoadStatus currentStatus stops) ≤ progressRank (deriveLoadStatus currentStatus stops') ↔
        ¬ (currentStatus = .inTransit ∧ stop ∈ pickups stops ∧ ∀ s ∈ pickups stops, s.status = .pending))) := by
  refine ⟨fun stops' hperm => (deriveLoadStatus_counted hnodup (hperm.filter counted)).symm,
    fun stops' hsame => (deriveLoadStatus_counted hnodup (List.Perm.of_eq hsame.symm)).symm,
    deriveLoadStatus_idem currentStatus stops, fun _ stops' stop after hmoved ha => ⟨?_, hmoved.mono ha hnodup⟩⟩
  rintro hle ⟨rfl, hstop, hpending⟩
  obtain ⟨hbefore, hafter⟩ := hmoved.falls_back ha hstop hpending
  rw [hbefore, hafter] at hle
  exact absurd hle (by decide)

namespace Sample

def oneEach (status : StopStatus) (returns : List StopProgressInput) : List StopProgressInput :=
  ⟨.pickup, .standard, status, 1⟩ :: ⟨.delivery, .standard, .pending, 2⟩ :: returns

def returnPair : List StopProgressInput := [⟨.pickup, .returnLeg, .completed, 3⟩, ⟨.delivery, .returnLeg, .arrived, 4⟩]

def onePickup : List StopProgressInput := oneEach .pending []

end Sample

open LoadStatusDerivationService.Sample

theorem derivation_laws_sample :
    deriveLoadStatus .pickup (oneEach .arrived returnPair).reverse = .pickup ∧
    deriveLoadStatus .pickup (oneEach .arrived []) = .pickup ∧
    deriveLoadStatus (deriveLoadStatus .pickup (oneEach .completed returnPair)) (oneEach .completed returnPair) =
      .inTransit ∧
    progressRank (deriveLoadStatus .pickup (oneEach .arrived returnPair)) ≤
      progressRank (deriveLoadStatus .pickup (oneEach .completed returnPair)) ∧
    ¬ progressRank (deriveLoadStatus .inTransit onePickup) ≤
      progressRank (deriveLoadStatus .inTransit (oneEach .arrived [])) := by
  obtain ⟨hperm, hsame, _, hmono⟩ := derivation_laws .pickup (oneEach .arrived returnPair) (by decide)
  obtain ⟨_, _, hidem, _⟩ := derivation_laws .pickup (oneEach .completed returnPair) (by decide)
  obtain ⟨_, _, _, hfalls⟩ := derivation_laws .inTransit onePickup (by decide)
  have harrived : deriveLoadStatus .pickup (oneEach .arrived returnPair) = .pickup := by decide
  have hcompleted : deriveLoadStatus .pickup (oneEach .completed returnPair) = .inTransit := by decide
  refine ⟨(hperm _ (List.reverse_perm _).symm).trans harrived, (hsame _ rfl).trans harrived, hidem.trans hcompleted, ?_, ?_⟩
  · exact (hmono ⟨_, List.mem_cons_self⟩ _ _ _ ⟨[], _, rfl, rfl⟩ .depart).mpr (by decide)
  · intro hle
    exact (hfalls ⟨_, List.mem_cons_self⟩ _ _ _ ⟨[], _, rfl, rfl⟩ .arrive).mp hle ⟨rfl, List.mem_cons_self, by decide⟩

theorem arrival_falls_back :
    ¬ ∀ (currentStatus : LoadStatus) (stops stops' : List StopProgressInput) (stop : StopProgressInput)
        (after : StopStatus), (stops.map StopProgressInput.sequence).Nodup → (∃ s, s ∈ pickups stops) →
        Restated stops stops' stop after → Advances stop.status after →
        progressRank (deriveLoadStatus currentStatus stops) ≤ progressRank (deriveLoadStatus currentStatus stops') := by
  intro h
  have hle := h .inTransit onePickup _ _ .arrived (by decide) ⟨_, List.mem_cons_self⟩ ⟨[], _, rfl, rfl⟩ .arrive
  exact absurd hle (by decide)

end LoadStatusDerivationService

end Truckmaster.QuoteLoad
