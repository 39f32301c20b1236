import Truckmaster.BackgroundJobs.AttentionDetectors
import Truckmaster.Library.Pages

namespace Truckmaster.BackgroundJobs

open Common QuoteLoad Pages

instance (now : Instant) : Std.Total (Closer now) where
  total a b := by
    rcases lt_trichotomy |a.appointmentDatetime - now| |b.appointmentDatetime - now| with h | h | h
    · exact Or.inl (Or.inl h)
    · exact (le_total a.sequence b.sequence).imp (fun hs => Or.inr ⟨h, hs⟩) (fun hs => Or.inr ⟨h.symm, hs⟩)
    · exact Or.inr (Or.inl h)

instance (now : Instant) : IsTrans ApplicableStop (Closer now) where
  trans a b c := by
    rintro (hab | ⟨hab, hs⟩) (hbc | ⟨hbc, hs'⟩)
    · exact Or.inl (hab.trans hbc)
    · exact Or.inl (hbc ▸ hab)
    · exact Or.inl (hab ▸ hbc)
    · exact Or.inr ⟨hab.trans hbc, hs.trans hs'⟩

def Upcoming (now : Instant) (s : Stop) : Prop :=
  s.stopPurpose = .standard ∧ s.status = .pending ∧
    ∃ t, s.appointmentDatetime = some t ∧ now < t ∧ t ≤ now + 180 * 60000

def Inactive (currentLocationUpdatedAt dispatchedAt : Option Instant) (now : Instant) : Prop :=
  ∃ t, currentLocationUpdatedAt.or dispatchedAt = some t ∧ t + 120 * 60000 ≤ now

/-- An appointment that is not after now comes before each later one: it is closer to now or, as close, of a lower
sequence or of the same one and before it in the list. -/
def Masked (now : Instant) (stops : List Stop) : Prop :=
  ∃ front past back, stops.filterMap candidate = front ++ past :: back ∧ past.appointmentDatetime ≤ now ∧
    (∀ later ∈ back, now < later.appointmentDatetime → Closer now past later) ∧
    ∀ later ∈ front, now < later.appointmentDatetime → ¬ Closer now later past

structure Describes (stops : List Stop) (currentLocationUpdatedAt dispatchedAt : Option Instant) (now : Instant)
    (result : AppointmentImminentResult) : Prop where
  stop : ∃ s ∈ stops, Upcoming now s ∧ s.appointmentDatetime = some result.appointmentDatetime ∧
    s.stopType = result.stopType
  earliest : ∀ s ∈ stops, Upcoming now s → ∀ t ∈ s.appointmentDatetime, result.appointmentDatetime ≤ t
  ahead : result.minutesUntilAppointment = minutes (result.appointmentDatetime - now)
  since : ∀ t ∈ currentLocationUpdatedAt.or dispatchedAt, result.minutesSinceLastActivity = minutes (now - t)
  source : result.lastActivitySource = if currentLocationUpdatedAt.isSome then .checkCall else .dispatch
  severity : result.severity = if result.appointmentDatetime ≤ now + 60 * 60000 then .high else .medium

def Exact (stops : List Stop) (currentLocationUpdatedAt dispatchedAt : Option Instant) (now : Instant) : Prop :=
  (evaluateAppointmentImminent stops currentLocationUpdatedAt dispatchedAt now ≠ none ↔
    Inactive currentLocationUpdatedAt dispatchedAt now ∧ ∃ s ∈ stops, Upcoming now s) ∧
  ∀ result, evaluateAppointmentImminent stops currentLocationUpdatedAt dispatchedAt now = some result →
    Describes stops currentLocationUpdatedAt dispatchedAt now result

section Detection

variable {stops stops' : List Stop} {currentLocationUpdatedAt dispatchedAt : Option Instant} {now : Instant}
  {a : ApplicableStop} {result : AppointmentImminentResult}

lemma mem_candidates : a ∈ stops.filterMap candidate ↔ ∃ s ∈ stops, s.stopPurpose = .standard ∧ s.status = .pending ∧
    s.appointmentDatetime = some a.appointmentDatetime ∧ s.stopType = a.stopType ∧ s.sequence = a.sequence := by
  rw [List.mem_filterMap]
  refine exists_congr (fun s => and_congr_right (fun _ => ?_))
  rw [candidate]
  split_ifs with h
  · rw [Option.map_eq_some_iff]
    constructor
    · rintro ⟨t, ht, rfl⟩
      exact ⟨h.1, h.2, ht, rfl, rfl⟩
    · rintro ⟨_, _, ht, htype, hsequence⟩
      exact ⟨_, ht, by rw [htype, hsequence]⟩
  · exact iff_of_false nofun (fun hs => h ⟨hs.1, hs.2.1⟩)

lemma minutes_le (t u n : ℤ) : minutes (t - u) ≤ n ↔ t ≤ u + n * 60000 := by
  rw [minutes, div_le_iff₀ (by norm_num)]
  exact (by exact_mod_cast Iff.rfl : ((t - u : ℤ) : ℚ) ≤ n * 60000 ↔ t - u ≤ n * 60000).trans sub_le_iff_le_add'

lemma within_iff (t : Instant) : ¬ minutes (t - now) > appointmentWithinMinutes ↔ t ≤ now + 180 * 60000 := by
  rw [gt_iff_lt, not_lt]
  exact_mod_cast minutes_le t now 180

lemma stale_iff (t : Instant) : ¬ minutes (now - t) < activityStaleMinutes ↔ t + 120 * 60000 ≤ now := by
  have hms : minutes (now - t) < activityStaleMinutes ↔ now < t + 120 * 60000 := by
    rw [minutes, div_lt_iff₀ (by norm_num), activityStaleMinutes]
    exact (by exact_mod_cast Iff.rfl : ((now - t : ℤ) : ℚ) < 120 * 60000 ↔ now - t < 120 * 60000).trans sub_lt_iff_lt_add'
  rw [hms, not_lt]

lemma closest_le {t : Instant} (hnow : now < a.appointmentDatetime) (ht : now < t) {b : ApplicableStop}
    (hb : b.appointmentDatetime = t) (h : Closer now a b) : a.appointmentDatetime ≤ t := by
  have hdistance : |a.appointmentDatetime - now| ≤ |b.appointmentDatetime - now| :=
    h.elim le_of_lt (fun hs => hs.1.le)
  rw [hb, abs_of_pos (sub_pos.mpr hnow), abs_of_pos (sub_pos.mpr ht)] at hdistance
  exact (sub_le_sub_iff_right now).mp hdistance

lemma masked_iff (h : findApplicableAppointmentStop stops now = some a) :
    Masked now stops ↔ a.appointmentDatetime ≤ now := by
  constructor
  · rintro ⟨front, past, back, hsplit, hpast, hback, hfront⟩
    by_contra hlater
    rw [not_le] at hlater
    rcases head_before h hsplit with rfl | ⟨hmem, hcloser⟩ | ⟨hmem, hfar⟩
    · exact absurd hpast (not_le.mpr hlater)
    · exact hfront a hmem hlater hcloser
    · exact hfar (hback a hmem hlater)
  · intro hpast
    obtain ⟨front, back, hsplit, hback, hfront⟩ := head_split h
    exact ⟨front, a, back, hsplit, hpast, fun b hb _ => hback b hb, fun b hb _ => hfront b hb⟩

lemma evaluate_some : evaluateAppointmentImminent stops currentLocationUpdatedAt dispatchedAt now = some result ↔
    ∃ a t, findApplicableAppointmentStop stops now = some a ∧ now < a.appointmentDatetime ∧
      a.appointmentDatetime ≤ now + 180 * 60000 ∧ currentLocationUpdatedAt.or dispatchedAt = some t ∧
      t + 120 * 60000 ≤ now ∧
      result = ⟨a.stopType, a.appointmentDatetime, minutes (a.appointmentDatetime - now), minutes (now - t),
        if currentLocationUpdatedAt.isSome then .checkCall else .dispatch,
        if minutes (a.appointmentDatetime - now) ≤ highSeverityWithinMinutes then .high else .medium⟩ := by
  have hor : (currentLocationUpdatedAt.orElse fun _ => dispatchedAt) = currentLocationUpdatedAt.or dispatchedAt := by
    cases currentLocationUpdatedAt <;> rfl
  simp only [evaluateAppointmentImminent, Option.bind_eq_bind, Option.bind_eq_some_iff, Option.orElse_eq_orElse, hor]
  constructor
  · rintro ⟨a, ha, h⟩
    split at h
    · cases h
    next hlater =>
      split at h
      · cases h
      next hwithin =>
        obtain ⟨t, ht, h⟩ := Option.bind_eq_some_iff.mp h
        split at h
        · cases h
        next hstale =>
          exact ⟨a, t, ha, not_le.mp hlater, (within_iff _).mp hwithin, ht, (stale_iff t).mp hstale, (Option.some.inj h).symm⟩
  · rintro ⟨a, t, ha, hlater, hwithin, ht, hstale, rfl⟩
    refine ⟨a, ha, ?_⟩
    rw [if_neg (not_le.mpr hlater), if_neg ((within_iff _).mpr hwithin)]
    refine Option.bind_eq_some_iff.mpr ⟨t, ht, ?_⟩
    rw [if_neg ((stale_iff t).mpr hstale)]

lemma upcoming_candidate {s : Stop} (hs : s ∈ stops) (h : Upcoming now s) : ∃ a ∈ stops.filterMap candidate,
    s.appointmentDatetime = some a.appointmentDatetime ∧ now < a.appointmentDatetime ∧
      a.appointmentDatetime ≤ now + 180 * 60000 := by
  obtain ⟨hpurpose, hstatus, t, ht, hlater, hwithin⟩ := h
  exact ⟨⟨s.stopType, t, s.sequence⟩, mem_candidates.mpr ⟨s, hs, hpurpose, hstatus, ht, rfl, rfl⟩, ht, hlater, hwithin⟩

lemma describes (h : evaluateAppointmentImminent stops currentLocationUpdatedAt dispatchedAt now = some result) :
    Inactive currentLocationUpdatedAt dispatchedAt now ∧ (∃ s ∈ stops, Upcoming now s) ∧ ¬ Masked now stops ∧
      Describes stops currentLocationUpdatedAt dispatchedAt now result := by
  obtain ⟨a, t, ha, hlater, hwithin, ht, hstale, rfl⟩ := evaluate_some.mp h
  obtain ⟨s, hs, hpurpose, hstatus, happointment, htype, -⟩ := mem_candidates.mp (head_mem ha)
  have hupcoming : Upcoming now s := ⟨hpurpose, hstatus, _, happointment, hlater, hwithin⟩
  refine ⟨⟨t, ht, hstale⟩, ⟨s, hs, hupcoming⟩, fun hmasked => absurd ((masked_iff ha).mp hmasked) (not_le.mpr hlater),
    ⟨s, hs, hupcoming, happointment, htype⟩, fun s' hs' hupcoming' t' ht' => ?_, rfl, fun t' ht' => ?_, rfl, ?_⟩
  · obtain ⟨b, hb, hbt, hblater, -⟩ := upcoming_candidate hs' hupcoming'
    obtain rfl := Option.some.inj (hbt.symm.trans ht')
    exact closest_le hlater hblater rfl (head_first ha b hb)
  · rw [Option.some.inj (ht.symm.trans ht')]
  · have hsoon : minutes (a.appointmentDatetime - now) ≤ highSeverityWithinMinutes ↔
        a.appointmentDatetime ≤ now + 60 * 60000 := by exact_mod_cast minutes_le a.appointmentDatetime now 60
    simp only [hsoon]

lemma answers_iff : evaluateAppointmentImminent stops currentLocationUpdatedAt dispatchedAt now ≠ none ↔
    Inactive currentLocationUpdatedAt dispatchedAt now ∧ (∃ s ∈ stops, Upcoming now s) ∧ ¬ Masked now stops := by
  constructor
  · intro h
    obtain ⟨result, hresult⟩ := Option.ne_none_iff_exists'.mp h
    obtain ⟨hinactive, hupcoming, hmasked, -⟩ := describes hresult
    exact ⟨hinactive, hupcoming, hmasked⟩
  · rintro ⟨⟨t, ht, hstale⟩, ⟨s, hs, hupcoming⟩, hmasked⟩
    obtain ⟨b, hb, -, hblater, hbwithin⟩ := upcoming_candidate hs hupcoming
    obtain ⟨a, ha⟩ : ∃ a, findApplicableAppointmentStop stops now = some a := head_exists (List.ne_nil_of_mem hb)
    have hlater : now < a.appointmentDatetime := not_le.mp (fun hpast => hmasked ((masked_iff ha).mpr hpast))
    have hwithin := (closest_le hlater hblater rfl (head_first ha b hb)).trans hbwithin
    exact Option.ne_none_iff_exists'.mpr ⟨_, evaluate_some.mpr ⟨a, t, ha, hlater, hwithin, ht, hstale, rfl⟩⟩

lemma exact_iff : Exact stops currentLocationUpdatedAt dispatchedAt now ↔
    (Inactive currentLocationUpdatedAt dispatchedAt now → (∃ s ∈ stops, Upcoming now s) → ¬ Masked now stops) := by
  rw [Exact, answers_iff, and_iff_left (fun result hresult => (describes hresult).2.2.2)]
  constructor
  · exact fun h hinactive hupcoming => (h.mpr ⟨hinactive, hupcoming⟩).2.2
  · exact fun h => ⟨fun hall => ⟨hall.1, hall.2.1⟩, fun hboth => ⟨hboth.1, hboth.2, h hboth.1 hboth.2⟩⟩

end Detection

theorem imminent_exact_iff {stops stops' : List Stop} (hadded : stops ⊆ stops')
    (currentLocationUpdatedAt dispatchedAt : Option Instant) (now : Instant) :
    (Exact stops currentLocationUpdatedAt dispatchedAt now ∧
      (evaluateAppointmentImminent stops currentLocationUpdatedAt dispatchedAt now ≠ none →
        evaluateAppointmentImminent stops' currentLocationUpdatedAt dispatchedAt now ≠ none)) ↔
    (Inactive currentLocationUpdatedAt dispatchedAt now → (∃ s ∈ stops, Upcoming now s) →
      ¬ Masked now stops ∧ ¬ Masked now stops') := by
  have hkept : (∃ s ∈ stops, Upcoming now s) → ∃ s ∈ stops', Upcoming now s :=
    fun ⟨s, hs, hupcoming⟩ => ⟨s, hadded hs, hupcoming⟩
  rw [exact_iff, answers_iff, answers_iff]
  constructor
  · rintro ⟨hseen, hstays⟩ hinactive hupcoming
    have hunmasked := hseen hinactive hupcoming
    exact ⟨hunmasked, (hstays ⟨hinactive, hupcoming, hunmasked⟩).2.2⟩
  · intro h
    refine ⟨fun hinactive hupcoming => (h hinactive hupcoming).1, fun ⟨hinactive, hupcoming, _⟩ => ?_⟩
    exact ⟨hinactive, hkept hupcoming, (h hinactive hupcoming).2⟩

namespace Sample

def delivery : Stop :=
  { id := 2, sequence := 2, stopType := .delivery, city := "Austin", state := "TX", zip := "78701",
    appointmentDatetime := some 3600000 }

def latePickup : Stop :=
  { id := 1, sequence := 1, stopType := .pickup, city := "Dallas", state := "TX", zip := "75201",
    appointmentDatetime := some (-1800000) }

def earlyPickup : Stop := { latePickup with appointmentDatetime := some (-7200000) }

end Sample

theorem imminent_exact_sample : Exact [Sample.delivery] (some (-7200000)) none 0 ∧
    (evaluateAppointmentImminent [Sample.delivery] (some (-7200000)) none 0 ≠ none →
      evaluateAppointmentImminent [Sample.earlyPickup, Sample.delivery] (some (-7200000)) none 0 ≠ none) := by
  have hsorted : findApplicableAppointmentStop [Sample.delivery] 0 = some ⟨.delivery, 3600000, 2⟩ := by decide
  have hsorted' : findApplicableAppointmentStop [Sample.earlyPickup, Sample.delivery] 0 = some ⟨.delivery, 3600000, 2⟩ := by
    decide
  refine (imminent_exact_iff (by decide) (some (-7200000)) none 0).mpr (fun _ _ => ?_)
  rw [masked_iff hsorted, masked_iff hsorted']
  exact ⟨by decide, by decide⟩

theorem delivery_masked : Inactive (some (-7200000)) none 0 ∧ Upcoming 0 Sample.delivery ∧
    evaluateAppointmentImminent [Sample.delivery] (some (-7200000)) none 0 ≠ none ∧
    evaluateAppointmentImminent [Sample.latePickup, Sample.delivery] (some (-7200000)) none 0 = none := by
  refine ⟨⟨-7200000, rfl, by decide⟩, ⟨rfl, rfl, 3600000, rfl, by decide, by decide⟩, ?_, ?_⟩
  · decide +kernel
  · decide +kernel

end Truckmaster.BackgroundJobs
