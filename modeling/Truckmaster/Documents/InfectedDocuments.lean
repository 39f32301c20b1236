import Truckmaster.Documents.MalwareScan
import Truckmaster.Library.Runs

namespace Truckmaster.Documents

open Common Fallible Runs

variable {copiesOntoItself : Bool} {s s' : ScanState} {job job' : ScanJob} {now : Instant} {answer : Answer}
  {e : ScanEvent}

namespace ScanJob

def commits (answer : Answer) (job : ScanJob) : Option MalwareScanResult :=
  match answer, job.phase with
  | .done, .applying result _ (.commit _) => some result
  | _, _ => none

def offers (answer : Answer) (job : ScanJob) : Option MalwareScanResult :=
  match answer, job.phase with
  | .done, .applying result _ (.extract _) => some result
  | _, _ => none

end ScanJob

namespace ScanState

def infected (s : ScanState) : Prop := s.document.scanStatus = .infected

def consumable (s : ScanState) : Prop := isDocumentConsumable s.document.scanStatus = true

def committed (s : ScanState) : ScanEvent → Option MalwareScanResult
  | .advance n answer _ => s.jobs[n]?.bind (ScanJob.commits answer)
  | _ => none

def offered (s : ScanState) : ScanEvent → Option MalwareScanResult
  | .advance n answer _ => s.jobs[n]?.bind (ScanJob.offers answer)
  | _ => none

/-- A scan job commits its own result over INFECTED, or comes with it to the extraction queue of an intake document. -/
def Overrides (s : ScanState) (e : ScanEvent) : Prop :=
  s.infected ∧ ((∃ result ∈ s.committed e, result.status ≠ .infected) ∨
    s.document.entityType = .rateConfirmationIntake ∧ ∃ result ∈ s.offered e, result.status ≠ .infected)

structure Refused (s t : ScanState) : Prop where
  consumable : ¬ t.consumable
  download : ∀ key, getDownloadUrl t.document ≠ .ok key
  extraction : t.extractionJobs = s.extractionJobs

structure Same (s s' : ScanState) : Prop where
  document : s'.document = s.document
  confirming : s'.confirming = s.confirming
  jobs : s'.jobs = s.jobs

lemma Same.refl (s : ScanState) : Same s s := ⟨rfl, rfl, rfl⟩

lemma enqueueExtraction_same (result : MalwareScanResult) (key : StorageKey) :
    Same s (s.enqueueExtraction result key) := by
  unfold enqueueExtraction
  split <;> exact ⟨rfl, rfl, rfl⟩

lemma scanned_status (result : MalwareScanResult) (key : StorageKey) :
    (s.scanned result key now).document.scanStatus = result.status.documentStatus := by
  simp only [scanned, notifyQuarantined]
  split_ifs <;> rfl

lemma scanned_queues (s : ScanState) (result : MalwareScanResult) (key : StorageKey) (now : Instant) :
    (s.scanned result key now).confirming = s.confirming ∧ (s.scanned result key now).jobs = s.jobs := by
  simp only [scanned, notifyQuarantined]
  split_ifs <;> exact ⟨rfl, rfl⟩

lemma answered_cases (h : s.answered copiesOntoItself job now answer = some (s', job')) :
    (job.commits answer = none ∧ Same s s') ∨
      ∃ result call key, job.phase = .applying result call (.commit key) ∧ job.commits answer = some result ∧
        s' = s.scanned result key now ∧ job'.phase = .completed := by
  cases answer with
  | verdict result =>
    simp only [answered] at h
    split at h
    · cases h
      exact Or.inl ⟨rfl, .refl s⟩
    · cases h
  | error message =>
    simp only [answered] at h
    split at h
    · cases h
      exact Or.inl ⟨rfl, .refl s⟩
    · cases h
      exact Or.inl ⟨rfl, .refl s⟩
    · cases h
  | done =>
    cases hphase : job.phase with
    | applying result call stage =>
      simp only [ScanJob.commits, hphase]
      cases stage with
      | find =>
        simp only [answered, hphase, Option.some.injEq, Prod.mk.injEq] at h
        exact Or.inl ⟨rfl, h.1 ▸ .refl s⟩
      | copy key =>
        simp only [answered, hphase, Option.ite_none_right_eq_some, Option.some.injEq, Prod.mk.injEq] at h
        exact Or.inl ⟨rfl, h.2.1 ▸ ⟨rfl, rfl, rfl⟩⟩
      | delete key =>
        simp only [answered, hphase, Option.some.injEq, Prod.mk.injEq] at h
        exact Or.inl ⟨rfl, h.1 ▸ ⟨rfl, rfl, rfl⟩⟩
      | extract key =>
        simp only [answered, hphase, Option.some.injEq, Prod.mk.injEq] at h
        exact Or.inl ⟨rfl, h.1 ▸ enqueueExtraction_same result key⟩
      | commit key =>
        simp only [answered, hphase, Option.some.injEq, Prod.mk.injEq] at h
        exact Or.inr ⟨result, call, key, rfl, rfl, h.1.symm, h.2 ▸ rfl⟩
    | _ => simp [answered, hphase] at h

lemma answered_status (h : s.answered copiesOntoItself job now answer = some (s', job')) :
    s'.document.scanStatus =
      ((job.commits answer).map (fun r => r.status.documentStatus)).getD s.document.scanStatus := by
  rcases answered_cases h with ⟨hnone, hsame⟩ | ⟨result, _, key, _, hsome, rfl, _⟩
  · rw [hnone, hsame.document]
    rfl
  · rw [hsome, scanned_status]
    rfl

lemma step_status (h : s.step copiesOntoItself e = some s') :
    s'.document.scanStatus =
      ((s.committed e).map (fun r => r.status.documentStatus)).getD s.document.scanStatus := by
  cases e with
  | putObject =>
    cases h
    rfl
  | confirmUpload actingUserId =>
    simp only [step, confirmUpload, ensure] at h
    split at h
    · cases h
      rfl
    · cases h
  | addScanJob n =>
    obtain ⟨confirmation, _, h⟩ := Option.bind_eq_some_iff.mp h
    cases h
    rfl
  | start n malwareScanEnabled =>
    obtain ⟨job, _, h⟩ := Option.bind_eq_some_iff.mp h
    split at h
    · cases h
      rfl
    · cases h
  | advance n answer now =>
    obtain ⟨job, hjob, h⟩ := Option.bind_eq_some_iff.mp h
    obtain ⟨⟨next, job'⟩, hanswered, h⟩ := Option.bind_eq_some_iff.mp h
    cases h
    simp only [committed, hjob, Option.bind_some]
    have hstatus : next.document.scanStatus = _ := answered_status hanswered
    exact hstatus

lemma enqueueExtraction_kept_iff {result : MalwareScanResult} {key : StorageKey} :
    (s.enqueueExtraction result key).extractionJobs = s.extractionJobs ↔
      ¬ (s.document.entityType = .rateConfirmationIntake ∧ result.status ≠ .infected) := by
  have hconsumable : isDocumentConsumable result.status.documentStatus = true ↔ result.status ≠ .infected := by
    cases result.status <;> decide
  simp only [enqueueExtraction, hconsumable]
  split
  next hintake => simp [hintake]
  next hintake => simp [hintake]

lemma scanned_extraction (s : ScanState) (result : MalwareScanResult) (key : StorageKey) (now : Instant) :
    (s.scanned result key now).extractionJobs = s.extractionJobs := by
  simp only [scanned, notifyQuarantined]
  split_ifs <;> rfl

lemma answered_extraction (h : s.answered copiesOntoItself job now answer = some (s', job')) :
    (job.offers answer = none ∧ s'.extractionJobs = s.extractionJobs) ∨
      ∃ result key, job.offers answer = some result ∧ s' = s.enqueueExtraction result key := by
  cases answer with
  | verdict result =>
    simp only [answered] at h
    split at h
    · cases h
      exact Or.inl ⟨rfl, rfl⟩
    · cases h
  | error message =>
    simp only [answered] at h
    split at h
    · cases h
      exact Or.inl ⟨rfl, rfl⟩
    · cases h
      exact Or.inl ⟨rfl, rfl⟩
    · cases h
  | done =>
    cases hphase : job.phase with
    | applying result call stage =>
      simp only [ScanJob.offers, hphase]
      cases stage with
      | find =>
        simp only [answered, hphase, Option.some.injEq, Prod.mk.injEq] at h
        exact Or.inl ⟨rfl, h.1 ▸ rfl⟩
      | copy key =>
        simp only [answered, hphase, Option.ite_none_right_eq_some, Option.some.injEq, Prod.mk.injEq] at h
        exact Or.inl ⟨rfl, h.2.1 ▸ rfl⟩
      | delete key =>
        simp only [answered, hphase, Option.some.injEq, Prod.mk.injEq] at h
        exact Or.inl ⟨rfl, h.1 ▸ rfl⟩
      | extract key =>
        simp only [answered, hphase, Option.some.injEq, Prod.mk.injEq] at h
        exact Or.inr ⟨result, key, rfl, h.1.symm⟩
      | commit key =>
        simp only [answered, hphase, Option.some.injEq, Prod.mk.injEq] at h
        exact Or.inl ⟨rfl, h.1 ▸ scanned_extraction s result key now⟩
    | _ => simp [answered, hphase] at h

lemma step_extraction (h : s.step copiesOntoItself e = some s') : s'.extractionJobs = s.extractionJobs ↔
    ¬ (s.document.entityType = .rateConfirmationIntake ∧ ∃ result ∈ s.offered e, result.status ≠ .infected) := by
  cases e with
  | putObject =>
    cases h
    simp [offered, setObject]
  | confirmUpload actingUserId =>
    simp only [step, confirmUpload, ensure] at h
    split at h
    · cases h
      simp [offered]
    · cases h
  | addScanJob n =>
    obtain ⟨confirmation, _, h⟩ := Option.bind_eq_some_iff.mp h
    cases h
    simp [offered, record]
  | start n malwareScanEnabled =>
    obtain ⟨job, _, h⟩ := Option.bind_eq_some_iff.mp h
    split at h
    · cases h
      simp [offered, setJob]
    · cases h
  | advance n answer now =>
    obtain ⟨job, hjob, h⟩ := Option.bind_eq_some_iff.mp h
    obtain ⟨⟨next, job'⟩, hanswered, h⟩ := Option.bind_eq_some_iff.mp h
    cases h
    simp only [offered, hjob, Option.bind_some, setJob]
    rcases answered_extraction hanswered with ⟨hnone, hkept⟩ | ⟨result, key, hsome, rfl⟩
    · simp [hnone, hkept]
    · simp [hsome, enqueueExtraction_kept_iff]

lemma not_consumable_of_infected (h : s.infected) : ¬ s.consumable := by
  rw [infected] at h
  simp [consumable, h, isDocumentConsumable]

lemma Refused.refl (h : s.infected) : Refused s s where
  consumable := not_consumable_of_infected h
  download := getDownloadUrl_refused (Bool.eq_false_of_not_eq_true (not_consumable_of_infected h))
  extraction := rfl

lemma infected_step {a : ScanState} (hinfected : s.infected) (hrefused : Refused a s) (hkeeps : ¬ s.Overrides e)
    (h : s.step copiesOntoItself e = some s') : s'.infected ∧ Refused a s' := by
  have hstays : s'.infected := by
    rw [infected, step_status h]
    cases hcommitted : s.committed e with
    | none => exact hinfected
    | some result =>
      have hstatus : result.status = .infected := by
        by_contra hother
        exact hkeeps ⟨hinfected, Or.inl ⟨result, hcommitted, hother⟩⟩
      simp [hstatus, MalwareScanStatus.documentStatus]
  have hkept : s'.extractionJobs = s.extractionJobs :=
    (step_extraction h).mpr (fun hoffered => hkeeps ⟨hinfected, Or.inr hoffered⟩)
  have hend := Refused.refl hstays
  exact ⟨hstays, hend.consumable, hend.download, hkept.trans hrefused.extraction⟩

lemma overrides_step (hover : s.Overrides e) (h : s.step copiesOntoItself e = some s') : ¬ Refused s s' := by
  intro hrefused
  rcases hover.2 with ⟨result, hcommitted, hother⟩ | hoffered
  · refine hrefused.consumable ?_
    rw [consumable, step_status h, Option.mem_def.mp hcommitted]
    cases hstatus : result.status with
    | infected => exact absurd hstatus hother
    | _ => simp [hstatus, MalwareScanStatus.documentStatus, isDocumentConsumable]
  · exact (step_extraction h).mp hrefused.extraction hoffered

end ScanState

def ScanEvent.confirms : ScanEvent → Bool
  | .confirmUpload _ => true
  | _ => false

namespace ScanState

def pending (s : ScanState) : ℕ := s.confirming.length + s.jobs.length

def Settled (s : ScanState) : Prop := s.infected → s.confirming = [] ∧ ∀ job ∈ s.jobs, job.phase = .completed

lemma answered_pending (h : s.answered copiesOntoItself job now answer = some (s', job')) :
    s'.confirming = s.confirming ∧ s'.jobs = s.jobs := by
  rcases answered_cases h with ⟨_, hsame⟩ | ⟨result, _, key, _, _, rfl, _⟩
  · exact ⟨hsame.confirming, hsame.jobs⟩
  · exact scanned_queues s result key now

lemma answered_of_completed (h : job.phase = .completed) : s.answered copiesOntoItself job now answer = none := by
  cases answer <;> simp [answered, h]

lemma step_pending (h : s.step copiesOntoItself e = some s') :
    s'.pending = s.pending + [e].countP ScanEvent.confirms := by
  cases e with
  | putObject =>
    cases h
    rfl
  | confirmUpload actingUserId =>
    simp only [step, confirmUpload, ensure] at h
    split at h
    · cases h
      simp only [pending, List.length_append, List.length_singleton, List.countP_singleton, ScanEvent.confirms, if_true]
      omega
    · cases h
  | addScanJob n =>
    obtain ⟨confirmation, hget, h⟩ := Option.bind_eq_some_iff.mp h
    obtain ⟨hlt, _⟩ := List.getElem?_eq_some_iff.mp hget
    cases h
    simp only [pending, record, List.length_append, List.length_singleton, List.length_eraseIdx, if_pos hlt,
      List.countP_singleton, ScanEvent.confirms, Bool.false_eq_true, if_false]
    omega
  | start n malwareScanEnabled =>
    obtain ⟨job, _, h⟩ := Option.bind_eq_some_iff.mp h
    split at h
    · cases h
      simp [pending, setJob, ScanEvent.confirms]
    · cases h
  | advance n answer now =>
    obtain ⟨job, hjob, h⟩ := Option.bind_eq_some_iff.mp h
    obtain ⟨⟨next, job'⟩, hanswered, h⟩ := Option.bind_eq_some_iff.mp h
    cases h
    obtain ⟨hconfirming, hjobs⟩ := answered_pending hanswered
    simp [pending, setJob, ScanEvent.confirms, hconfirming, hjobs]

lemma infected_idle (hinfected : s.infected) (hqueue : s.confirming = [])
    (hjobs : ∀ job ∈ s.jobs, job.phase = .completed) (h : s.step copiesOntoItself e = some s') : Same s s' := by
  cases e with
  | putObject =>
    cases h
    exact ⟨rfl, rfl, rfl⟩
  | confirmUpload actingUserId =>
    have hpending : s.document.scanStatus ≠ .pending := by
      rw [hinfected]
      decide
    simp [step, confirmUpload, ensure, hpending, bind, Except.bind, Except.toOption] at h
  | addScanJob n => simp [step, hqueue] at h
  | start n malwareScanEnabled =>
    obtain ⟨job, hjob, h⟩ := Option.bind_eq_some_iff.mp h
    simp [hjobs job (List.mem_of_getElem? hjob)] at h
  | advance n answer now =>
    obtain ⟨job, hjob, h⟩ := Option.bind_eq_some_iff.mp h
    simp [answered_of_completed (hjobs job (List.mem_of_getElem? hjob))] at h

lemma committed_idle {result : MalwareScanResult} (hcommitted : s.committed e = some result) (hone : s'.pending ≤ 1)
    (h : s.step copiesOntoItself e = some s') :
    s'.confirming = [] ∧ ∀ job ∈ s'.jobs, job.phase = .completed := by
  cases e with
  | advance n answer now =>
    obtain ⟨job, hjob, h⟩ := Option.bind_eq_some_iff.mp h
    obtain ⟨⟨next, job'⟩, hanswered, h⟩ := Option.bind_eq_some_iff.mp h
    cases h
    simp only [committed, hjob, Option.bind_some] at hcommitted
    rcases answered_cases hanswered with ⟨hnone, _⟩ | ⟨result', _, key, _, _, rfl, hcompleted⟩
    · rw [hnone] at hcommitted
      cases hcommitted
    obtain ⟨hconfirming, hjobs⟩ := scanned_queues s result' key now
    obtain ⟨hlt, _⟩ := List.getElem?_eq_some_iff.mp hjob
    -- the job that commits is the only one that was ever queued
    simp only [pending, setJob, hconfirming, hjobs, List.length_set] at hone ⊢
    have hlength : s.jobs.length = 1 := by omega
    obtain ⟨only, honly⟩ := List.length_eq_one_iff.mp hlength
    obtain rfl : n = 0 := by omega
    refine ⟨List.length_eq_zero_iff.mp (by omega), ?_⟩
    simp [honly, hcompleted]
  | _ => cases hcommitted

lemma settled_step (hs : s.Settled) (hone : s'.pending ≤ 1) (h : s.step copiesOntoItself e = some s') :
    s'.Settled ∧ (s.infected → s'.infected) := by
  cases hcommitted : s.committed e with
  | none =>
    have hstatus : s'.document.scanStatus = s.document.scanStatus := by
      rw [step_status h, hcommitted]
      rfl
    have hsettled : s'.Settled := by
      intro hinfected
      have hbefore : s.infected := hstatus.symm.trans hinfected
      obtain ⟨hqueue, hjobs⟩ := hs hbefore
      have hsame := infected_idle hbefore hqueue hjobs h
      rw [hsame.confirming, hsame.jobs]
      exact ⟨hqueue, hjobs⟩
    exact ⟨hsettled, hstatus.trans⟩
  | some result =>
    refine ⟨fun _ => committed_idle hcommitted hone h, fun hinfected => ?_⟩
    obtain ⟨hqueue, hjobs⟩ := hs hinfected
    rw [infected, (infected_idle hinfected hqueue hjobs h).document]
    exact hinfected

lemma settled_run {es : List ScanEvent} (h : Run (Enabled (step copiesOntoItself)) s es s') (hs : s.Settled)
    (hone : s.pending + es.countP ScanEvent.confirms ≤ 1) :
    s'.Settled ∧ s'.pending = s.pending + es.countP ScanEvent.confirms ∧ (s.infected → s'.infected) := by
  induction h with
  | nil s => exact ⟨hs, rfl, id⟩
  | @cons s t u e es he _ ih =>
    have hpending := step_pending he
    rw [List.countP_cons, ← List.countP_singleton] at hone ⊢
    have hrest : t.pending + es.countP ScanEvent.confirms ≤ 1 := by omega
    obtain ⟨hsettled, hinfected⟩ := settled_step hs (by omega) he
    obtain ⟨hend, hcount, hstays⟩ := ih hsettled hrest
    exact ⟨hend, by omega, hstays ∘ hinfected⟩

theorem confirmed_once_stays {t t' : ScanState} {ds ds' : List ScanEvent} (hqueue : s.confirming = [])
    (hjobs : s.jobs = []) (hone : (ds ++ ds').countP ScanEvent.confirms ≤ 1)
    (h : Run (Enabled (step copiesOntoItself)) s ds t) (h' : Run (Enabled (step copiesOntoItself)) t ds' t')
    (hinfected : t.infected) : ¬ t'.consumable := by
  have hstart : s.Settled := fun _ => ⟨hqueue, by simp [hjobs]⟩
  have hnone : s.pending = 0 := by simp [pending, hqueue, hjobs]
  rw [List.countP_append] at hone
  obtain ⟨hsettled, hpending, _⟩ := settled_run h hstart (by omega)
  obtain ⟨_, _, hstays⟩ := settled_run h' hsettled (by omega)
  exact not_consumable_of_infected (hstays hinfected)

end ScanState

open ScanState

theorem infected_stays_iff {es : List ScanEvent} (h : Run (Enabled (step copiesOntoItself)) s es s') :
    (∀ ds ds' t t', ds ++ ds' <+: es → Run (Enabled (step copiesOntoItself)) s ds t →
      Run (Enabled (step copiesOntoItself)) t ds' t' → t.infected → Refused t t') ↔
    Run (Guarded (Enabled (step copiesOntoItself)) (fun s e => ¬ s.Overrides e)) s es s' :=
  stays_iff_guarded (R := Refused) (fun _ hinfected => .refl hinfected)
    (fun _ _ _ _ hinfected hrefused hkeeps he => infected_step hinfected hrefused hkeeps he)
    (fun _ _ _ hover he => ⟨(not_not.mp hover).1, overrides_step (not_not.mp hover) he⟩) h

instance (s : ScanState) (e : ScanEvent) : Decidable (s.Overrides e) :=
  inferInstanceAs (Decidable (s.document.scanStatus = .infected ∧ ((∃ result ∈ s.committed e, result.status ≠ .infected) ∨
    s.document.entityType = .rateConfirmationIntake ∧ ∃ result ∈ s.offered e, result.status ≠ .infected)))

instance (s : ScanState) : Decidable s.infected := inferInstanceAs (Decidable (s.document.scanStatus = .infected))

namespace Sample

def uploaded : ScanState where
  document :=
    { id := 5, organizationId := 1, entityType := .load, entityId := 9, fileStorageKey := .documents 1 5
      fileName := "pod.pdf", uploadedByUserId := 3 }
  objects _ := false
  adminUserIds := [2]

def confirmedTwice : List ScanEvent :=
  [.putObject, .confirmUpload 3, .confirmUpload 3, .addScanJob 0, .addScanJob 0]

def verdict (job : ℕ) (status : MalwareScanStatus) : ScanEvent := .advance job (.verdict ⟨status, "cloudmersive"⟩) 60

def quarantines (job : ℕ) : List ScanEvent := verdict job .infected :: List.replicate 5 (.advance job .done 60)

def clears (job : ℕ) : List ScanEvent := verdict job .clean :: List.replicate 3 (.advance job .done 61)

def losesCommit (job : ℕ) : List ScanEvent :=
  [verdict job .clean, .advance job .done 61, .advance job .done 61, .advance job (.error "connection lost") 61]

def intake : ScanState := { uploaded with document := { uploaded.document with entityType := .rateConfirmationIntake } }

/-- The second job has fetched the object before the first moves it away. -/
def bothScanning : List ScanEvent := confirmedTwice ++ [.start 0 true, .start 1 true] ++ quarantines 0

def uploadedAgain : List ScanEvent := confirmedTwice ++ [.start 0 true] ++ quarantines 0 ++ [.putObject, .start 1 true]

def missing : List ScanEvent :=
  confirmedTwice ++ [.start 0 true] ++ quarantines 0 ++ [.start 1 true, .advance 1 (.error "NoSuchKey") 61]

end Sample

open Sample

theorem infected_stays_sample : ∃ t, Run (Enabled (step false)) uploaded missing t ∧ t.infected ∧
    ∀ ds ds' u v, ds ++ ds' <+: missing → Run (Enabled (step false)) uploaded ds u →
      Run (Enabled (step false)) u ds' v → u.infected → Refused u v := by
  have hend : (missing.foldlM (checked (step false) (fun s e => ¬ s.Overrides e)) uploaded).any
      (fun t => decide t.infected) = true := by decide
  obtain ⟨t, ht, hinfected⟩ := (Option.any_eq_true _ _).mp hend
  have hrun := run_checked ht
  exact ⟨t, hrun.unguarded, of_decide_eq_true hinfected, (infected_stays_iff hrun.unguarded).mpr hrun⟩

def Reopened (s : ScanState) (es later : List ScanEvent) : Prop :=
  ∃ t t', Run (Enabled (step false)) s es t ∧ Run (Enabled (step false)) t later t' ∧ t.infected ∧
    t'.document.scanStatus = .clean ∧ getDownloadUrl t'.document = .ok t'.document.quarantineKey

lemma reopened_of_runs {es later : List ScanEvent} (h : (es.foldlM (step false) s).any (fun t => t.infected ∧
    (later.foldlM (step false) t).any (fun t' => t'.document.scanStatus = .clean ∧
      t'.document.fileStorageKey = t'.document.quarantineKey)) = true) : Reopened s es later := by
  obtain ⟨t, ht, hboth⟩ := (Option.any_eq_true _ _).mp h
  obtain ⟨hinfected, hlater⟩ := of_decide_eq_true hboth
  obtain ⟨t', ht', hclean⟩ := (Option.any_eq_true _ _).mp hlater
  obtain ⟨hstatus, hkey⟩ := of_decide_eq_true hclean
  refine ⟨t, t', (run_enabled_iff _ _ _ _).mpr ht, (run_enabled_iff _ _ _ _).mpr ht', hinfected, hstatus, ?_⟩
  rw [getDownloadUrl, hstatus, hkey]
  rfl

def Extracted (s : ScanState) (es later : List ScanEvent) : Prop :=
  ∃ t t', Run (Enabled (step false)) s es t ∧ Run (Enabled (step false)) t later t' ∧ t.infected ∧ t'.infected ∧
    t.extractionJobs = [] ∧ t'.extractionJobs.map ExtractionJob.storageKey = [s.document.quarantineKey]

lemma extracted_of_runs {es later : List ScanEvent} (h : (es.foldlM (step false) s).any (fun t => t.infected ∧
    (later.foldlM (step false) t).any (fun t' => t'.infected ∧ t.extractionJobs = [] ∧
      t'.extractionJobs.map ExtractionJob.storageKey = [s.document.quarantineKey])) = true) : Extracted s es later := by
  obtain ⟨t, ht, hboth⟩ := (Option.any_eq_true _ _).mp h
  obtain ⟨hinfected, hlater⟩ := of_decide_eq_true hboth
  obtain ⟨t', ht', hextracted⟩ := (Option.any_eq_true _ _).mp hlater
  exact ⟨t, t', (run_enabled_iff _ _ _ _).mpr ht, (run_enabled_iff _ _ _ _).mpr ht', hinfected,
    of_decide_eq_true hextracted⟩

theorem infected_document_cleared :
    Reopened uploaded bothScanning (clears 1) ∧ Reopened uploaded uploadedAgain (clears 1) ∧
      Extracted intake bothScanning (losesCommit 1) :=
  ⟨reopened_of_runs (by decide), reopened_of_runs (by decide), extracted_of_runs (by decide)⟩

end Truckmaster.Documents
