import Truckmaster.QuoteLoad.StatusRuns

namespace Truckmaster.QuoteLoad

open Common Fallible LoadStatusDerivationService DispatchTrackingService Runs Tables

variable {c : Call} {rows rows' : LoadRows} {calls : List Call} {sequences : List ℤ}

lemma progress_sequences (rows : LoadRows) :
    rows.progress.map StopProgressInput.sequence = rows.stops.rows.map Stop.sequence := by
  rw [LoadRows.progress, List.map_map]
  rfl

lemma nodup_step (hs : Served rows c rows') :
    (rows'.progress.map StopProgressInput.sequence).Nodup ↔ (rows.progress.map StopProgressInput.sequence).Nodup := by
  rcases served_cases hs with rfl | hok
  · rfl
  · cases exec_effect hok with
    | workflow _ progress => rw [progress]
    | unmoved _ progress => rw [progress]
    | arrival _ moved => rw [moved.sequences_eq]
    | departure _ moved => rw [moved.sequences_eq]
    | edit _ _ stops => rw [editedStops_sequences stops]
    | returned _ pair => exact pair.sequences_nodup

lemma nodup_run (h : Run Served rows calls rows') :
    (rows'.progress.map StopProgressInput.sequence).Nodup ↔ (rows.progress.map StopProgressInput.sequence).Nodup := by
  induction h with
  | nil => rfl
  | cons hs _ ih => rw [ih, nodup_step hs]

lemma findStop_exists {stop : Stop} (o : RowOrder) (h : stop ∈ rows.stops.rows) :
    ∃ found, findStop o rows stop.sequence = some found := by
  cases hfound : findStop o rows stop.sequence with
  | some found => exact ⟨found, rfl⟩
  | none =>
    have hnone := findFirst_none.mp hfound stop h
    simp at hnone

lemma addressable_iff_nodup (rows : LoadRows) :
    (∀ o, ∀ stop ∈ rows.stops.rows, findStop o rows stop.sequence = some stop) ↔
      (rows.stops.rows.map Stop.sequence).Nodup := by
  constructor
  · intro haddress
    refine List.Nodup.map_on (fun a ha b hb hseq => ?_) (List.Nodup.of_map _ rows.stops.nodup)
    have hfound := haddress .stored a ha
    rw [hseq, haddress .stored b hb] at hfound
    exact (Option.some.inj hfound).symm
  · intro hnodup o stop hstop
    obtain ⟨found, hfound⟩ := findStop_exists o hstop
    obtain ⟨hmem, hseq⟩ := findStop_some hfound
    rw [hfound, List.inj_on_of_nodup_map hnodup hmem hstop hseq]

theorem sequences_distinct_iff (hbooked : Booked sequences rows) (hrun : Run Served rows calls rows') :
    ((rows'.stops.rows.map Stop.sequence).Nodup ↔ sequences.Nodup) ∧
    ((∀ o, ∀ stop ∈ rows'.stops.rows, findStop o rows' stop.sequence = some stop) ↔ sequences.Nodup) := by
  have hnodup : (rows'.stops.rows.map Stop.sequence).Nodup ↔ sequences.Nodup := by
    rw [← progress_sequences, nodup_run hrun, hbooked.fresh.sequences.nodup_iff]
  exact ⟨hnodup, (addressable_iff_nodup rows').trans hnodup⟩

theorem sequences_distinct_sample :
    ((Sample.serve Sample.booked 2 [Sample.edit 1 .delivery]).stops.rows.map Stop.sequence).Nodup :=
  (sequences_distinct_iff (.direct Sample.booked_eq) (Sample.serve_run _ 2 [Sample.edit 1 .delivery])).1.mpr (by decide)

theorem shared_sequence_booked :
    ((Sample.book (Sample.load [Sample.stop 0 .pickup, Sample.stop 0 .delivery])).toOption.map
      (fun rows => (rows.stops.rows.map Stop.sequence,
        (findStop .stored rows 1).map Stop.stopType))) = some ([1, 1], some .pickup) := by decide

end Truckmaster.QuoteLoad
