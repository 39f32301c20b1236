import Truckmaster.BackgroundJobs.AttentionItems

namespace Truckmaster.BackgroundJobs

open Common Tables QuoteLoad

def minutes (ms : ℤ) : ℚ := ms / 60000

/-- `Math.round`: a half goes up. -/
def mathRound (x : ℚ) : ℤ := (x + 1 / 2).floor

def formatDurationMinutes (totalMinutes : ℤ) : String :=
  let hours := totalMinutes / 60
  let minutes := totalMinutes % 60
  if hours > 0 then s!"{hours}h {minutes}m" else s!"{minutes}m"

structure ApplicableStop where
  stopType : StopType
  appointmentDatetime : Instant
  sequence : ℤ
  deriving DecidableEq, Repr

def candidate (s : Stop) : Option ApplicableStop :=
  if s.stopPurpose = .standard ∧ s.status = .pending then
    s.appointmentDatetime.map (fun appointmentDatetime => ⟨s.stopType, appointmentDatetime, s.sequence⟩)
  else none

def Closer (now : Instant) (a b : ApplicableStop) : Prop :=
  |a.appointmentDatetime - now| < |b.appointmentDatetime - now| ∨
    |a.appointmentDatetime - now| = |b.appointmentDatetime - now| ∧ a.sequence ≤ b.sequence

instance (now : Instant) : DecidableRel (Closer now) := fun _ _ => inferInstanceAs (Decidable (_ ∨ _))

def findApplicableAppointmentStop (stops : List Stop) (now : Instant) : Option ApplicableStop :=
  ((stops.filterMap candidate).insertionSort (Closer now)).head?

def severityOf (rules : List (ℚ × AttentionSeverity)) (minutes : ℚ) : AttentionSeverity :=
  ((rules.find? (fun r => r.1 ≤ minutes)).map Prod.snd).getD .medium

def etaRiskSeverityThresholds : List (ℚ × AttentionSeverity) := [(60, .critical), (15, .high), (0, .medium)]

def computeEtaRiskSeverity (minutesAfter : ℤ) : AttentionSeverity := severityOf etaRiskSeverityThresholds minutesAfter

structure EtaRiskResult where
  stopType : StopType
  appointmentDatetime : Instant
  currentEta : Instant
  minutesAfter : ℤ
  severity : AttentionSeverity
  deriving DecidableEq, Repr

def evaluateEtaRisk (currentEta : Option Instant) (stops : List Stop) (now : Instant) : Option EtaRiskResult := do
  let currentEta ← currentEta
  let applicable ← findApplicableAppointmentStop stops now
  let diffMs := currentEta - applicable.appointmentDatetime
  if diffMs ≤ 0 then none
  else
    let minutesAfter := (minutes diffMs).ceil
    some ⟨applicable.stopType, applicable.appointmentDatetime, currentEta, minutesAfter,
      computeEtaRiskSeverity minutesAfter⟩

def EtaRiskResult.metadata (risk : EtaRiskResult) : AttentionMetadata :=
  .etaRisk risk.minutesAfter risk.appointmentDatetime risk.currentEta risk.stopType

def EtaRiskResult.finding (risk : EtaRiskResult) : Finding where
  severity := risk.severity
  title := s!"{stopTypeLabel risk.stopType} at Risk"
  reason := s!"ETA is approximately {formatDurationMinutes risk.minutesAfter} after the appointment."
  metadata := risk.metadata

def etaRisk : Detector where
  type := .etaAfterAppointment
  suppressing_ne := by decide
  evaluate rows stops now := (evaluateEtaRisk rows.load.currentEta stops now).map EtaRiskResult.finding

def staleLocationThresholdMinutes : ℚ := 120

def staleLocationSeverityRules : List (ℚ × AttentionSeverity) := [(180, .high), (120, .medium)]

def computeStaleLocationSeverity (ageMinutes : ℚ) : AttentionSeverity := severityOf staleLocationSeverityRules ageMinutes

structure LocationStalenessResult where
  ageMinutes : ℚ
  severity : AttentionSeverity
  deriving DecidableEq, Repr

def evaluateLocationStaleness (currentLocationUpdatedAt : Option Instant) (now : Instant) :
    Option LocationStalenessResult := do
  let updatedAt ← currentLocationUpdatedAt
  let ageMinutes := minutes (now - updatedAt)
  if ageMinutes < staleLocationThresholdMinutes then none
  else some ⟨ageMinutes, computeStaleLocationSeverity ageMinutes⟩

def LocationStalenessResult.finding (staleness : LocationStalenessResult) (currentLocationUpdatedAt : Instant) :
    Finding where
  severity := staleness.severity
  title := "Stale Location"
  reason :=
    s!"Location has not been updated in approximately {formatDurationMinutes (mathRound staleness.ageMinutes)}."
  metadata := .staleLocation (mathRound staleness.ageMinutes) currentLocationUpdatedAt

def staleLocation : Detector where
  type := .staleLocation
  suppressing_ne := by decide
  evaluate rows _ now := do
    let staleness ← evaluateLocationStaleness rows.load.currentLocationUpdatedAt now
    rows.load.currentLocationUpdatedAt.map staleness.finding

def appointmentWithinMinutes : ℚ := 180
def activityStaleMinutes : ℚ := 120
def highSeverityWithinMinutes : ℚ := 60

structure AppointmentImminentResult where
  stopType : StopType
  appointmentDatetime : Instant
  minutesUntilAppointment : ℚ
  minutesSinceLastActivity : ℚ
  lastActivitySource : LastActivitySource
  severity : AttentionSeverity
  deriving DecidableEq, Repr

def evaluateAppointmentImminent (stops : List Stop) (currentLocationUpdatedAt dispatchedAt : Option Instant)
    (now : Instant) : Option AppointmentImminentResult := do
  let applicable ← findApplicableAppointmentStop stops now
  if applicable.appointmentDatetime ≤ now then none
  else
    let minutesUntilAppointment := minutes (applicable.appointmentDatetime - now)
    if minutesUntilAppointment > appointmentWithinMinutes then none
    else
      let lastActivityAt ← currentLocationUpdatedAt <|> dispatchedAt
      let lastActivitySource := if currentLocationUpdatedAt.isSome then LastActivitySource.checkCall else .dispatch
      let minutesSinceLastActivity := minutes (now - lastActivityAt)
      if minutesSinceLastActivity < activityStaleMinutes then none
      else
        some ⟨applicable.stopType, applicable.appointmentDatetime, minutesUntilAppointment, minutesSinceLastActivity,
          lastActivitySource, if minutesUntilAppointment ≤ highSeverityWithinMinutes then .high else .medium⟩

def AppointmentImminentResult.finding (risk : AppointmentImminentResult) : Finding where
  severity := risk.severity
  title := "Appointment Imminent — No Recent Check-In"
  reason :=
    s!"Appointment is in approximately {formatDurationMinutes (mathRound risk.minutesUntilAppointment)}, " ++
    s!"and the last known activity was approximately {formatDurationMinutes (mathRound risk.minutesSinceLastActivity)} ago."
  metadata := .appointmentImminent (mathRound risk.minutesUntilAppointment) risk.appointmentDatetime risk.stopType
    (mathRound risk.minutesSinceLastActivity) risk.lastActivitySource

def appointmentImminent : Detector where
  type := .appointmentImminentNoCheckCall
  suppressingType := some .staleLocation
  suppressing_ne := by decide
  evaluate rows stops now :=
    (evaluateAppointmentImminent stops rows.load.currentLocationUpdatedAt (rows.dispatchRecord.map DispatchRecord.dispatchedAt)
      now).map AppointmentImminentResult.finding

section Rows

variable {w : Tenants} {b : Board} {l : TenantLoad}

lemma isActive_iff {k : Uuid × Uuid × AttentionType} :
    b.isActive k = true ↔ ∃ i ∈ b.items.rows, i.key = k ∧ i.status = .active := by
  rw [Board.isActive, Option.any_eq_true]
  constructor
  · rintro ⟨i, hi, hactive⟩
    obtain ⟨hrow, hkey⟩ := Table.get_eq_some.mp hi
    exact ⟨i, hrow, hkey, beq_iff_eq.mp hactive⟩
  · rintro ⟨i, hrow, hkey, hactive⟩
    exact ⟨i, Table.get_eq_some.mpr ⟨hrow, hkey⟩, beq_iff_eq.mpr hactive⟩

/-- An item of any tenant counts; the pass of that tenant sees that the Load is not its own. -/
def Flags (w : Tenants) (l : TenantLoad) (type : AttentionType) (i : AttentionItem) : Prop :=
  i.organizationId ∈ w.organizations ∧ i.loadId = l.id ∧ i.type = type ∧ i.status = .active

def Operational (l : TenantLoad) : Prop := l.rows.load.status ∈ operationalStatuses

lemma operational_own (hl : l ∈ w.loads.rows) (organizationId : Uuid) :
    (w.loads.get l.id).filter (Tenants.isOperational organizationId) =
      if organizationId = l.organizationId ∧ l.rows.load.status ∈ operationalStatuses then some l else none := by
  have hop : Tenants.isOperational organizationId l = true ↔
      organizationId = l.organizationId ∧ l.rows.load.status ∈ operationalStatuses := by
    rw [Tenants.isOperational, Bool.and_eq_true, beq_iff_eq, List.contains_iff_mem, eq_comm]
  rw [Table.get_eq_some.mpr ⟨hl, rfl⟩, Option.filter_some]
  simp only [hop]

lemma finding_own {d : Detector} (hl : l ∈ w.loads.rows) (now : Instant) (suppressed : Uuid → Uuid → Bool)
    (organizationId : Uuid) {f : Finding} :
    d.finding w now suppressed organizationId l.id = some f ↔
      organizationId = l.organizationId ∧ Operational l ∧ suppressed organizationId l.id = false ∧
        d.evaluate l.rows (w.stops l) now = some f := by
  rw [Detector.finding, operational_own hl]
  by_cases hown : organizationId = l.organizationId ∧ l.rows.load.status ∈ operationalStatuses
  · rw [if_pos hown, Option.bind_some]
    cases hsup : suppressed organizationId l.id <;> simp [hown.1, Operational, hown.2]
  · rw [if_neg hown, Option.bind_none]
    simp only [reduceCtorEq, false_iff]
    exact fun h => hown ⟨h.1, h.2.1⟩

lemma swept_flag {d : Detector} {now : Instant} {q : Pass} {i : AttentionItem}
    (hi : i ∈ (d.sweep w now q b).items.rows) (hflag : Flags w l d.type i) (hl : l ∈ w.loads.rows) :
    ∃ f, d.evaluate l.rows (w.stops l) now = some f ∧ Operational l ∧
      d.isSuppressed b l.organizationId l.id = false ∧ i.severity = f.severity ∧ i.metadata = some f.metadata := by
  obtain ⟨ho, hload, htype, hactive⟩ := hflag
  have hget : (d.sweep w now q b).items.get (i.organizationId, l.id, d.type) = some i :=
    Table.get_eq_some.mpr ⟨hi, by rw [← hload, ← htype]; rfl⟩
  have hsettled := Detector.settle_settled now (q.uuid i.organizationId l.id) (i.organizationId, l.id, d.type)
    (d.finding w now (d.isSuppressed b) i.organizationId l.id) (b.items.get (i.organizationId, l.id, d.type))
  rw [← Detector.sweep_get w now q b ho, hget] at hsettled
  cases hfinding : d.finding w now (d.isSuppressed b) i.organizationId l.id with
  | none =>
    rw [hfinding] at hsettled
    exact absurd hactive (hsettled i rfl)
  | some f =>
    rw [hfinding] at hsettled
    obtain ⟨j, hj, -, hsame⟩ := hsettled
    obtain ⟨hown, hop, hsup, hf⟩ := (finding_own hl now _ _).mp hfinding
    obtain rfl := Option.some.inj hj
    refine ⟨f, hf, hop, hown ▸ hsup, ?_, ?_⟩
    · exact (congrArg AttentionItem.severity hsame).symm
    · exact (congrArg AttentionItem.metadata hsame).symm

lemma swept_flags_iff {d : Detector} {now : Instant} {q : Pass} (hl : l ∈ w.loads.rows) :
    (∃ i ∈ (d.sweep w now q b).items.rows, Flags w l d.type i) ↔
      Operational l ∧ d.isSuppressed b l.organizationId l.id = false ∧ d.evaluate l.rows (w.stops l) now ≠ none := by
  constructor
  · rintro ⟨i, hi, hflag⟩
    obtain ⟨f, hf, hop, hsup, -, -⟩ := swept_flag hi hflag hl
    exact ⟨hop, hsup, by rw [hf]; exact Option.some_ne_none f⟩
  · rintro ⟨hop, hsup, hne⟩
    obtain ⟨f, hf⟩ := Option.ne_none_iff_exists'.mp hne
    have hfinding := (finding_own (d := d) hl now (d.isSuppressed b) l.organizationId).mpr ⟨rfl, hop, hsup, hf⟩
    have hactive := Detector.sweep_isActive w now q b (w.owned l hl) l.id (d := d)
    rw [hfinding] at hactive
    obtain ⟨i, hrow, hkey, hstatus⟩ := isActive_iff.mp hactive
    have horg : i.organizationId = l.organizationId := congrArg (fun k => k.1) hkey
    exact ⟨i, hrow, horg ▸ w.owned l hl, congrArg (fun k => k.2.1) hkey, congrArg (fun k => k.2.2) hkey, hstatus⟩

end Rows

theorem eta_risk_reconciled (w : Tenants) (now : Instant) (q q' : Pass) (b : Board) :
    (∀ l ∈ w.loads.rows,
      ((∃ i ∈ (etaRisk.sweep w now q b).items.rows, Flags w l .etaAfterAppointment i) ↔
        Operational l ∧ evaluateEtaRisk l.rows.load.currentEta (w.stops l) now ≠ none) ∧
      ∀ i ∈ (etaRisk.sweep w now q b).items.rows, Flags w l .etaAfterAppointment i →
        ∃ risk, evaluateEtaRisk l.rows.load.currentEta (w.stops l) now = some risk ∧
          i.severity = risk.severity ∧ i.metadata = some risk.metadata) ∧
    (∀ i ∈ (etaRisk.sweep w now q b).items.rows, ∀ j ∈ (etaRisk.sweep w now q b).items.rows,
      i.organizationId = j.organizationId → i.loadId = j.loadId → i.type = j.type → i = j) ∧
    etaRisk.sweep w now q' (etaRisk.sweep w now q b) = etaRisk.sweep w now q b := by
  refine ⟨fun l hl => ⟨?_, fun i hi hflag => ?_⟩, fun i hi j hj ho hload htype => ?_, ?_⟩
  · refine (swept_flags_iff (d := etaRisk) hl).trans ?_
    rw [etaRisk, ne_eq, Option.map_eq_none_iff]
    exact and_congr_right (fun _ => and_iff_right rfl)
  · obtain ⟨f, hf, -, -, hseverity, hmetadata⟩ := swept_flag (d := etaRisk) hi hflag hl
    obtain ⟨risk, hrisk, rfl⟩ := Option.map_eq_some_iff.mp hf
    exact ⟨risk, hrisk, hseverity, hmetadata⟩
  · exact (etaRisk.sweep w now q b).items.eq_of_key hi hj (by rw [AttentionItem.key, ho, hload, htype]; rfl)
  · exact Detector.sweep_again w now q q' b

def activeLoads (b : Board) (type : AttentionType) : Set (Uuid × Uuid) :=
  {k | ∃ i ∈ b.items.rows, i.key = (k.1, k.2, type) ∧ i.status = .active}

def NoneHasBoth (w : Tenants) (b : Board) : Prop :=
  ∀ l ∈ w.loads.rows, ¬ ((∃ i ∈ b.items.rows, Flags w l .staleLocation i) ∧
    ∃ i ∈ b.items.rows, Flags w l .appointmentImminentNoCheckCall i)

def Stale (now : Instant) (l : TenantLoad) : Prop :=
  evaluateLocationStaleness l.rows.load.currentLocationUpdatedAt now ≠ none

def Imminent (w : Tenants) (now : Instant) (l : TenantLoad) : Prop :=
  evaluateAppointmentImminent (w.stops l) l.rows.load.currentLocationUpdatedAt
    (l.rows.dispatchRecord.map DispatchRecord.dispatchedAt) now ≠ none

instance (l : TenantLoad) : Decidable (Operational l) := inferInstanceAs (Decidable (_ ∈ _))

instance (now : Instant) (l : TenantLoad) : Decidable (Stale now l) := inferInstanceAs (Decidable (_ ≠ none))

instance (w : Tenants) (now : Instant) (l : TenantLoad) : Decidable (Imminent w now l) :=
  inferInstanceAs (Decidable (_ ≠ none))

def staleFirst (w : Tenants) (now : Instant) (q q' : Pass) (b : Board) : Board :=
  appointmentImminent.sweep w now q' (staleLocation.sweep w now q b)

def appointmentFirst (w : Tenants) (now : Instant) (q q' : Pass) (b : Board) : Board :=
  staleLocation.sweep w now q' (appointmentImminent.sweep w now q b)

section Order

variable {w : Tenants} {b : Board} {l : TenantLoad} {now : Instant} {q q' : Pass} {organizationId loadId : Uuid}

def Holds (w : Tenants) (P : TenantLoad → Prop) (organizationId loadId : Uuid) : Prop :=
  ∃ l ∈ w.loads.rows, l.id = loadId ∧ l.organizationId = organizationId ∧ Operational l ∧ P l

lemma holds_own {P : TenantLoad → Prop} (hl : l ∈ w.loads.rows) :
    Holds w P organizationId l.id ↔ l.organizationId = organizationId ∧ Operational l ∧ P l := by
  constructor
  · rintro ⟨l', hl', hid, h⟩
    rwa [w.loads.eq_of_key hl' hl hid] at h
  · exact fun h => ⟨l, hl, rfl, h⟩

lemma finding_isSome {d : Detector} {suppressed : Uuid → Uuid → Bool} :
    (d.finding w now suppressed organizationId loadId).isSome = true ↔
      Holds w (fun l => d.evaluate l.rows (w.stops l) now ≠ none) organizationId loadId ∧
        suppressed organizationId loadId = false := by
  constructor
  · intro h
    obtain ⟨f, hf⟩ := Option.isSome_iff_exists.mp h
    obtain ⟨l, hl, -⟩ := Option.bind_eq_some_iff.mp hf
    obtain ⟨hrow, rfl, -⟩ := Detector.operational_eq_some.mp hl
    obtain ⟨hown, hop, hsup, heval⟩ := (finding_own hrow now suppressed organizationId).mp hf
    exact ⟨⟨l, hrow, rfl, hown.symm, hop, fun hnone => Option.some_ne_none f (heval.symm.trans hnone)⟩, hsup⟩
  · rintro ⟨⟨l, hl, rfl, rfl, hop, hne⟩, hsup⟩
    obtain ⟨f, hf⟩ := Option.ne_none_iff_exists'.mp hne
    rw [(finding_own hl now suppressed l.organizationId).mpr ⟨rfl, hop, hsup, hf⟩, Option.isSome_some]

lemma stale_swept (ho : organizationId ∈ w.organizations) :
    (staleLocation.sweep w now q b).isActive (organizationId, loadId, .staleLocation) = true ↔
      Holds w (Stale now) organizationId loadId := by
  have hsame (l : TenantLoad) : staleLocation.evaluate l.rows (w.stops l) now ≠ none ↔ Stale now l := by
    simp only [staleLocation, Stale, evaluateLocationStaleness]
    cases l.rows.load.currentLocationUpdatedAt <;> simp
  have hswept := Detector.sweep_isActive (d := staleLocation) w now q b ho loadId
  rw [show staleLocation.type = .staleLocation from rfl] at hswept
  rw [hswept, finding_isSome, and_iff_left (show staleLocation.isSuppressed b organizationId loadId = false from rfl)]
  simp only [hsame]

lemma appointment_swept (ho : organizationId ∈ w.organizations) :
    (appointmentImminent.sweep w now q b).isActive (organizationId, loadId, .appointmentImminentNoCheckCall) = true ↔
      Holds w (Imminent w now) organizationId loadId ∧ b.isActive (organizationId, loadId, .staleLocation) = false := by
  have hsame (l : TenantLoad) : appointmentImminent.evaluate l.rows (w.stops l) now ≠ none ↔ Imminent w now l := by
    simp only [appointmentImminent, Imminent, ne_eq, Option.map_eq_none_iff]
  have hswept := Detector.sweep_isActive (d := appointmentImminent) w now q b ho loadId
  rw [show appointmentImminent.type = .appointmentImminentNoCheckCall from rfl] at hswept
  rw [hswept, finding_isSome]
  simp only [hsame]
  exact Iff.rfl

lemma types_apart : AttentionType.appointmentImminentNoCheckCall ≠ .staleLocation := by decide

lemma stale_keeps : (staleLocation.sweep w now q b).isActive (organizationId, loadId, .appointmentImminentNoCheckCall) =
    b.isActive (organizationId, loadId, .appointmentImminentNoCheckCall) := by
  rw [Board.isActive, Detector.sweep_other w now q b (fun h => types_apart h.2), Board.isActive]

lemma appointment_keeps : (appointmentImminent.sweep w now q b).isActive (organizationId, loadId, .staleLocation) =
    b.isActive (organizationId, loadId, .staleLocation) := by
  rw [Board.isActive, Detector.sweep_other w now q b (fun h => types_apart h.2.symm), Board.isActive]

lemma foreign_kept {d : Detector} {type : AttentionType} (ho : organizationId ∉ w.organizations) :
    (d.sweep w now q b).isActive (organizationId, loadId, type) = b.isActive (organizationId, loadId, type) := by
  rw [Board.isActive, Detector.sweep_other w now q b (fun h => ho h.1), Board.isActive]

lemma staleFirst_stale (ho : organizationId ∈ w.organizations) :
    (staleFirst w now q q' b).isActive (organizationId, loadId, .staleLocation) = true ↔
      Holds w (Stale now) organizationId loadId := by
  rw [staleFirst, appointment_keeps, stale_swept ho]

lemma staleFirst_appointment (ho : organizationId ∈ w.organizations) :
    (staleFirst w now q q' b).isActive (organizationId, loadId, .appointmentImminentNoCheckCall) = true ↔
      Holds w (Imminent w now) organizationId loadId ∧ ¬ Holds w (Stale now) organizationId loadId := by
  rw [staleFirst, appointment_swept ho, ← Bool.not_eq_true, stale_swept ho]

lemma appointmentFirst_stale (ho : organizationId ∈ w.organizations) :
    (appointmentFirst w now q q' b).isActive (organizationId, loadId, .staleLocation) = true ↔
      Holds w (Stale now) organizationId loadId := by
  rw [appointmentFirst, stale_swept ho]

lemma appointmentFirst_appointment (ho : organizationId ∈ w.organizations) :
    (appointmentFirst w now q q' b).isActive (organizationId, loadId, .appointmentImminentNoCheckCall) = true ↔
      Holds w (Imminent w now) organizationId loadId ∧ ¬ b.isActive (organizationId, loadId, .staleLocation) = true := by
  rw [appointmentFirst, stale_keeps, appointment_swept ho, Bool.not_eq_true]

lemma mem_activeLoads {type : AttentionType} {k : Uuid × Uuid} :
    k ∈ activeLoads b type ↔ b.isActive (k.1, k.2, type) = true := isActive_iff.symm

lemma flags_iff {type : AttentionType} :
    (∃ i ∈ b.items.rows, Flags w l type i) ↔ ∃ o ∈ w.organizations, b.isActive (o, l.id, type) = true := by
  constructor
  · rintro ⟨i, hi, ho, hload, htype, hactive⟩
    exact ⟨_, ho, isActive_iff.mpr ⟨i, hi, by rw [AttentionItem.key, hload, htype], hactive⟩⟩
  · rintro ⟨o, ho, h⟩
    obtain ⟨i, hi, hkey, hactive⟩ := isActive_iff.mp h
    have horg : i.organizationId = o := congrArg (fun k => k.1) hkey
    exact ⟨i, hi, horg ▸ ho, congrArg (fun k => k.2.1) hkey, congrArg (fun k => k.2.2) hkey, hactive⟩

lemma stale_agrees (p p' : Pass) :
    activeLoads (staleFirst w now p p' b) .staleLocation = activeLoads (appointmentFirst w now q q' b) .staleLocation := by
  ext k
  rw [mem_activeLoads, mem_activeLoads]
  by_cases ho : k.1 ∈ w.organizations
  · rw [staleFirst_stale ho, appointmentFirst_stale ho]
  · simp only [staleFirst, appointmentFirst, foreign_kept ho]

lemma staleFirst_apart : NoneHasBoth w (staleFirst w now q q' b) := by
  rintro l hl ⟨hstale, happointment⟩
  obtain ⟨o, ho, hstale⟩ := flags_iff.mp hstale
  obtain ⟨o', ho', happointment⟩ := flags_iff.mp happointment
  obtain ⟨rfl, hop, hstale⟩ := (holds_own hl).mp ((staleFirst_stale ho).mp hstale)
  obtain ⟨himminent, hfresh⟩ := (staleFirst_appointment ho').mp happointment
  obtain ⟨rfl, -, -⟩ := (holds_own hl).mp himminent
  exact hfresh ((holds_own hl).mpr ⟨rfl, hop, hstale⟩)

lemma appointment_agrees_iff (p p' : Pass) :
    activeLoads (staleFirst w now p p' b) .appointmentImminentNoCheckCall =
        activeLoads (appointmentFirst w now q q' b) .appointmentImminentNoCheckCall ↔
      ∀ l ∈ w.loads.rows, Operational l → Imminent w now l →
        (b.isActive (l.organizationId, l.id, .staleLocation) = true ↔ Stale now l) := by
  constructor
  · intro hset l hl hop himminent
    have ho := w.owned l hl
    have hkey := Set.ext_iff.mp hset (l.organizationId, l.id)
    rw [mem_activeLoads, mem_activeLoads, staleFirst_appointment ho, appointmentFirst_appointment ho, holds_own hl,
      holds_own hl] at hkey
    have hown : l.organizationId = l.organizationId ∧ Operational l ∧ Imminent w now l := ⟨rfl, hop, himminent⟩
    rw [and_iff_right hown, and_iff_right hown, not_iff_not] at hkey
    exact hkey.symm.trans ⟨fun h => h.2.2, fun h => ⟨rfl, hop, h⟩⟩
  · intro hagree
    ext k
    rw [mem_activeLoads, mem_activeLoads]
    by_cases ho : k.1 ∈ w.organizations
    · rw [staleFirst_appointment ho, appointmentFirst_appointment ho]
      refine and_congr_right (fun ⟨l, hl, hid, hown, hop, himminent⟩ => not_congr ?_)
      rw [← hid, ← hown, hagree l hl hop himminent, holds_own hl]
      exact ⟨fun h => h.2.2, fun h => ⟨rfl, hop, h⟩⟩
    · simp only [staleFirst, appointmentFirst, foreign_kept ho]

lemma appointmentFirst_apart_iff :
    NoneHasBoth w (appointmentFirst w now q q' b) ↔
      ∀ l ∈ w.loads.rows, Operational l → Imminent w now l → Stale now l →
        b.isActive (l.organizationId, l.id, .staleLocation) = true := by
  constructor
  · intro hnone l hl hop himminent hstale
    have ho := w.owned l hl
    by_contra hidle
    refine hnone l hl ⟨flags_iff.mpr ⟨_, ho, ?_⟩, flags_iff.mpr ⟨_, ho, ?_⟩⟩
    · exact (appointmentFirst_stale ho).mpr ((holds_own hl).mpr ⟨rfl, hop, hstale⟩)
    · exact (appointmentFirst_appointment ho).mpr ⟨(holds_own hl).mpr ⟨rfl, hop, himminent⟩, hidle⟩
  · rintro hstored l hl ⟨hstale, happointment⟩
    obtain ⟨o, ho, hstale⟩ := flags_iff.mp hstale
    obtain ⟨o', ho', happointment⟩ := flags_iff.mp happointment
    obtain ⟨rfl, hop, hstale⟩ := (holds_own hl).mp ((appointmentFirst_stale ho).mp hstale)
    obtain ⟨himminent, hidle⟩ := (appointmentFirst_appointment ho').mp happointment
    obtain ⟨rfl, -, himminent⟩ := (holds_own hl).mp himminent
    exact hidle (hstored l hl hop himminent hstale)

lemma appointment_again_agrees (p p' r : Pass) {type : AttentionType}
    (htype : type = .staleLocation ∨ type = .appointmentImminentNoCheckCall) :
    activeLoads (appointmentImminent.sweep w now r (appointmentFirst w now q q' b)) type =
      activeLoads (staleFirst w now p p' b) type := by
  ext k
  rw [mem_activeLoads, mem_activeLoads]
  by_cases ho : k.1 ∈ w.organizations
  · rcases htype with rfl | rfl
    · rw [appointment_keeps, appointmentFirst_stale ho, staleFirst_stale ho]
    · rw [appointment_swept ho, staleFirst_appointment ho, ← Bool.not_eq_true, appointmentFirst_stale ho]
  · simp only [staleFirst, appointmentFirst, foreign_kept ho]

end Order

/-- The suppression reads the item that is stored, so the orders part where that item is about to change. -/
theorem sweep_orders_agree_iff (w : Tenants) (now : Instant) (p p' q q' r : Pass) (b : Board) :
    activeLoads (staleFirst w now p p' b) .staleLocation = activeLoads (appointmentFirst w now q q' b) .staleLocation ∧
    NoneHasBoth w (staleFirst w now p p' b) ∧
    (activeLoads (staleFirst w now p p' b) .appointmentImminentNoCheckCall =
        activeLoads (appointmentFirst w now q q' b) .appointmentImminentNoCheckCall ↔
      ∀ l ∈ w.loads.rows, Operational l → Imminent w now l →
        (b.isActive (l.organizationId, l.id, .staleLocation) = true ↔ Stale now l)) ∧
    (NoneHasBoth w (appointmentFirst w now q q' b) ↔
      ∀ l ∈ w.loads.rows, Operational l → Imminent w now l → Stale now l →
        b.isActive (l.organizationId, l.id, .staleLocation) = true) ∧
    ∀ type, type = .staleLocation ∨ type = .appointmentImminentNoCheckCall →
      activeLoads (appointmentImminent.sweep w now r (appointmentFirst w now q q' b)) type =
        activeLoads (staleFirst w now p p' b) type :=
  ⟨stale_agrees p p', staleFirst_apart, appointment_agrees_iff p p', appointmentFirst_apart_iff,
    fun _ htype => appointment_again_agrees p p' r htype⟩

namespace Sample

def noon : Instant := 1775044800000

def silentLoad : TenantLoad where
  organizationId := 1
  rows :=
    { load :=
        { id := 7, loadNumber := "LOAD-000007", customerId := 2, bookingSource := .direct, quoteId := none,
          status := .inTransit, equipmentType := .dryVan, customerRate := 250000, rateSource := .manual,
          rateAgreementId := none, currentLocationUpdatedAt := some (noon - 3 * 3600000), createdByUserId := 3 }
      stops := ⟨[{ id := 8, sequence := 1, stopType := .delivery, city := "Reno", state := "NV", zip := "89501",
                   appointmentDatetime := some (noon + 1800000) }], List.nodup_singleton _⟩ }

def tenants : Tenants where
  organizations := [1]
  loads := ⟨[silentLoad], List.nodup_singleton _⟩
  stopOrder := .stored
  nodup := List.nodup_singleton _
  owned l hl := by
    rw [List.mem_singleton.mp hl]
    exact List.mem_singleton.mpr rfl

def pass : Pass := ⟨fun _ loadId => loadId, .stored, fun _ => .stored, fun _ => .stored⟩

end Sample

open Sample in
theorem orders_part :
    activeLoads (staleFirst tenants noon pass pass ⟨.empty, []⟩) .appointmentImminentNoCheckCall ≠
        activeLoads (appointmentFirst tenants noon pass pass ⟨.empty, []⟩) .appointmentImminentNoCheckCall ∧
      ¬ NoneHasBoth tenants (appointmentFirst tenants noon pass pass ⟨.empty, []⟩) := by
  have hmem : silentLoad ∈ tenants.loads.rows := List.mem_singleton.mpr rfl
  have hop : Operational silentLoad := by decide
  have himminent : Imminent tenants noon silentLoad := by decide +kernel
  have hstale : Stale noon silentLoad := by decide +kernel
  have hidle : ¬ (⟨.empty, []⟩ : Board).isActive (silentLoad.organizationId, silentLoad.id, .staleLocation) = true :=
    Bool.false_ne_true
  refine ⟨fun hset => ?_, fun hnone => ?_⟩
  · exact hidle (((appointment_agrees_iff pass pass).mp hset silentLoad hmem hop himminent).mpr hstale)
  · exact hidle (appointmentFirst_apart_iff.mp hnone silentLoad hmem hop himminent hstale)

end Truckmaster.BackgroundJobs
