import Truckmaster.RateConfirmationExtraction.ExtractionRuns

namespace Truckmaster.RateConfirmationExtraction

open Common Documents ExpiringKeys JobQueues Runs RateConfirmationExtractionJobStore

namespace ExtractionState

/-- Somebody who will still make a mark on the record of an extraction. -/
inductive Outstanding (s : ExtractionState) (organizationId extractionId : Uuid) : Prop
  | job {k : ℕ} {j : Job ExtractionJob} : s.queue k = some j → j.pending = true → j.data.organizationId = organizationId →
      j.data.extractionId = extractionId →
      (∀ n a, s.lock k = some n → s.attempts n = some a → a.phase ≠ .returning) → Outstanding s organizationId extractionId
  | attempt {n : ℕ} {a : Attempt} : s.attempts n = some a → a.job.organizationId = organizationId →
      a.job.extractionId = extractionId → a.phase ≠ .returning → Outstanding s organizationId extractionId
  | retry {n : ℕ} {r : RetryRequest} {job : ExtractionJob} : s.retries n = some r → r.phase = .adding job →
      job.organizationId = organizationId → job.extractionId = extractionId → Outstanding s organizationId extractionId

structure Holds (s : ExtractionState) (k : ℕ) (a : Attempt) : Prop where
  id : a.jobId = k
  active : ∃ j, s.queue k = some j ∧ j.status = .active ∧ j.data = a.job ∧ j.attemptsMade = a.attemptsMade

structure Linked (s : ExtractionState) : Prop where
  jobs : ∀ k j, s.queue k = some j → k < s.freshJob
  locks : ∀ k n, s.lock k = some n → n < s.freshAttempt ∧ k < s.freshJob
  attempts : ∀ n a, s.attempts n = some a → n < s.freshAttempt
  held : ∀ k n a, s.lock k = some n → s.attempts n = some a → s.Holds k a

/-- Nobody is lost on the way: an attempt that dies or fails before its last mark holds its job, the queue does not give a
job up, and a retry that has reset the record adds its job. -/
def Attends (extract : Extractor) (s : ExtractionState) : ExtractionEvent → Prop
  | .advance n call => ∀ a ∈ s.attempts n, a.phase = .extracting → (extract a.job call).isOk = false →
      a.attemptsMade + 1 < maxAttempts → s.lock a.jobId = some n
  | .raise n _ => ∀ a ∈ s.attempts n, a.phase ≠ .returning → a.phase.caught = false ∧
      (a.attemptsMade + 1 < maxAttempts → s.lock a.jobId = some n)
  | .die n => ∀ a ∈ s.attempts n, a.phase ≠ .returning → s.lock a.jobId = some n
  | .stall k => ∀ j ∈ s.queue k, j.givesUp maxAttempts (.stall false) = false
  | .cutRetry n => ∀ r ∈ s.retries n, r.phase.adds = false
  | _ => True

instance (extract : Extractor) (s : ExtractionState) : ∀ e, Decidable (s.Attends extract e)
  | .advance n call => inferInstanceAs (Decidable (∀ a ∈ s.attempts n, a.phase = .extracting →
      (extract a.job call).isOk = false → a.attemptsMade + 1 < maxAttempts → s.lock a.jobId = some n))
  | .raise n _ => inferInstanceAs (Decidable (∀ a ∈ s.attempts n, a.phase ≠ .returning → a.phase.caught = false ∧
      (a.attemptsMade + 1 < maxAttempts → s.lock a.jobId = some n)))
  | .die n => inferInstanceAs (Decidable (∀ a ∈ s.attempts n, a.phase ≠ .returning → s.lock a.jobId = some n))
  | .stall k => inferInstanceAs (Decidable (∀ j ∈ s.queue k, j.givesUp maxAttempts (.stall false) = false))
  | .cutRetry n => inferInstanceAs (Decidable (∀ r ∈ s.retries n, r.phase.adds = false))
  | .tick .. | .initiate .. | .upload .. | .scanned .. | .start .. | .wake .. | .evict .. | .retry ..
  | .advanceRetry .. => inferInstanceAs (Decidable True)

variable {extract : Extractor} {s s' : ExtractionState} {o x : Uuid} {n k : ℕ} {a : Attempt} {j : Job ExtractionJob}
  {job : ExtractionJob} {m : Move}

section Linked

lemma Linked.same (h : Linked s) (hqueue : s'.queue = s.queue) (hlock : s'.lock = s.lock) (hjob : s'.freshJob = s.freshJob)
    (hattempt : s'.freshAttempt = s.freshAttempt)
    (hattempts : ∀ n a', s'.attempts n = some a' → ∃ a, s.attempts n = some a ∧ a'.jobId = a.jobId ∧ a'.job = a.job ∧
      a'.attemptsMade = a.attemptsMade) : Linked s' := by
  refine ⟨fun k j hj => ?_, fun k n hk => ?_, fun n a' ha' => ?_, fun k n a' hk ha' => ?_⟩
  · rw [hjob]
    exact h.jobs k j (hqueue ▸ hj)
  · rw [hjob, hattempt]
    exact h.locks k n (hlock ▸ hk)
  · obtain ⟨a, ha, _⟩ := hattempts n a' ha'
    rw [hattempt]
    exact h.attempts n a ha
  · obtain ⟨a, ha, hid, hdata, hmade⟩ := hattempts n a' ha'
    obtain ⟨hid', j, hj, hactive, hdata', hmade'⟩ := h.held k n a (hlock ▸ hk) ha
    exact ⟨hid.trans hid', j, hqueue ▸ hj, hactive, hdata'.trans hdata.symm, hmade'.trans hmade.symm⟩

lemma Linked.setPhase (h : Linked s) (ha : s.attempts n = some a) (phase : AttemptPhase) :
    Linked (s.setAttempt n (some { a with phase })) := by
  refine h.same rfl rfl rfl rfl (fun n' a' ha' => ?_)
  by_cases hn : n' = n
  · subst hn
    dsimp only [ExtractionState.setAttempt] at ha'
    rw [Function.update_self] at ha'
    rw [← Option.some.inj ha']
    exact ⟨a, ha, rfl, rfl, rfl⟩
  · exact ⟨a', (Function.update_of_ne hn _ _).symm.trans ha', rfl, rfl, rfl⟩

lemma attempts_endAttempt {n' : ℕ} {a' : Attempt} (h : (s.setAttempt n none).attempts n' = some a') :
    n' ≠ n ∧ s.attempts n' = some a' := by
  dsimp only [ExtractionState.setAttempt] at h
  by_cases hn : n' = n
  · subst hn
    rw [Function.update_self] at h
    cases h
  · rw [Function.update_of_ne hn] at h
    exact ⟨hn, h⟩

lemma Linked.endAttempt (h : Linked s) (n : ℕ) : Linked (s.setAttempt n none) :=
  h.same rfl rfl rfl rfl (fun _ a' ha' => ⟨a', (attempts_endAttempt ha').2, rfl, rfl, rfl⟩)

lemma Linked.setJob (h : Linked s) (hj : s.queue k = some j) (job : Option (Job ExtractionJob)) :
    Linked { s with queue := Function.update s.queue k job, lock := Function.update s.lock k none } := by
  have hlock {k' n' : ℕ} (hk' : Function.update s.lock k none k' = some n') : k' ≠ k ∧ s.lock k' = some n' := by
    by_cases hk : k' = k
    · subst hk
      rw [Function.update_self] at hk'
      cases hk'
    · rw [Function.update_of_ne hk] at hk'
      exact ⟨hk, hk'⟩
  refine ⟨fun k' j' hj' => ?_, fun k' n' hk' => h.locks k' n' (hlock hk').2, h.attempts, fun k' n' a' hk' ha' => ?_⟩
  · by_cases hk : k' = k
    · subst hk
      exact h.jobs k' j hj
    · exact h.jobs k' j' ((Function.update_of_ne hk _ _).symm.trans hj')
  · obtain ⟨hk, hold⟩ := hlock hk'
    obtain ⟨hid, j', hj', hrest⟩ := h.held k' n' a' hold ha'
    exact ⟨hid, j', (Function.update_of_ne hk _ _).trans hj', hrest⟩

lemma Linked.moveJob (h : Linked s) (k : ℕ) (m : Move) : Linked (s.moveJob k m) := by
  obtain heq | ⟨j, job, hj, _, heq⟩ := s.moveJob_cases k m
  · rw [heq]
    exact h
  · rw [heq]
    exact h.setJob hj job

lemma Linked.leave (h : Linked s) (n : ℕ) (a : Attempt) (m : Move) : Linked (s.leave n a m) := by
  unfold ExtractionState.leave
  dsimp only
  split
  next => exact (h.endAttempt n).moveJob _ _
  next => exact h.endAttempt n

lemma Linked.addJob (h : Linked s) (job : ExtractionJob) : Linked (s.addJob job) := by
  refine ⟨fun k j hj => ?_, fun k n hk => ?_, h.attempts, fun k n a hk ha => ?_⟩
  · by_cases hfresh : k = s.freshJob
    · subst hfresh
      exact Nat.lt_succ_self _
    · exact (h.jobs k j ((Function.update_of_ne hfresh _ _).symm.trans hj)).trans (Nat.lt_succ_self _)
  · exact ⟨(h.locks k n hk).1, (h.locks k n hk).2.trans (Nat.lt_succ_self _)⟩
  · obtain ⟨hid, j, hj, hrest⟩ := h.held k n a hk ha
    exact ⟨hid, j, (Function.update_of_ne (h.locks k n hk).2.ne _ _).trans hj, hrest⟩

lemma Linked.start (h : Linked s) (hj : s.queue k = some j) :
    Linked { s with
      queue := Function.update s.queue k (some { j with status := .active })
      lock := Function.update s.lock k (some s.freshAttempt)
      attempts := Function.update s.attempts s.freshAttempt (some ⟨k, j.data, j.attemptsMade, .reading .inProgress false⟩)
      freshAttempt := s.freshAttempt + 1 } := by
  refine ⟨fun k' j' hj' => ?_, fun k' n hk' => ?_, fun n a ha => ?_, fun k' n a hk' ha => ?_⟩
  · by_cases hk : k' = k
    · subst hk
      exact h.jobs k' j hj
    · exact h.jobs k' j' ((Function.update_of_ne hk _ _).symm.trans hj')
  · by_cases hk : k' = k
    · subst hk
      dsimp only at hk'
      rw [Function.update_self] at hk'
      rw [← Option.some.inj hk']
      exact ⟨Nat.lt_succ_self _, h.jobs k' j hj⟩
    · have hold := h.locks k' n ((Function.update_of_ne hk _ _).symm.trans hk')
      exact ⟨hold.1.trans (Nat.lt_succ_self _), hold.2⟩
  · by_cases hn : n = s.freshAttempt
    · subst hn
      exact Nat.lt_succ_self _
    · exact (h.attempts n a ((Function.update_of_ne hn _ _).symm.trans ha)).trans (Nat.lt_succ_self _)
  · dsimp only at hk' ha
    by_cases hk : k' = k
    · subst hk
      rw [Function.update_self] at hk'
      obtain rfl := Option.some.inj hk'
      rw [Function.update_self] at ha
      rw [← Option.some.inj ha]
      exact ⟨rfl, _, Function.update_self _ _ _, rfl, rfl, rfl⟩
    · rw [Function.update_of_ne hk] at hk'
      have hn : n ≠ s.freshAttempt := (h.locks k' n hk').1.ne
      rw [Function.update_of_ne hn] at ha
      obtain ⟨hid, j', hj', hrest⟩ := h.held k' n a hk' ha
      exact ⟨hid, j', (Function.update_of_ne hk _ _).trans hj', hrest⟩

lemma Linked.catchError (h : Linked s) (ha : s.attempts n = some a) (message : String) :
    Linked (s.catchError n a message) := by
  unfold ExtractionState.catchError
  split
  next => exact h.setPhase ha _
  next => exact h.leave n a .fail

lemma Linked.advance (h : Linked s) (ha : s.attempts n = some a) (call : ℕ) : Linked (s.advance extract n a call) := by
  unfold ExtractionState.advance
  cases a.phase with
  | reading mark caught =>
    dsimp only
    split
    next => exact h.setPhase ha _
    next => exact h.setPhase ha _
  | writing mark caught existing =>
    exact (h.setPhase ha (.after mark)).same rfl rfl rfl rfl (fun _ a' ha' => ⟨a', ha', rfl, rfl, rfl⟩)
  | extracting =>
    dsimp only
    split
    next => exact h.catchError ha _
    next => exact h.setPhase ha _
    next => exact h.setPhase ha _
  | returning => exact h.leave n a .complete

lemma Linked.raise (h : Linked s) (ha : s.attempts n = some a) (message : String) : Linked (s.raise n a message) := by
  unfold ExtractionState.raise
  split
  next => exact h
  next =>
    split
    next => exact h.leave n a .fail
    next => exact h.catchError ha message

lemma Linked.rewritten (h : Linked s) (hqueue : s'.queue = s.queue) (hlock : s'.lock = s.lock)
    (hjob : s'.freshJob = s.freshJob) (hattempt : s'.freshAttempt = s.freshAttempt) (hattempts : s'.attempts = s.attempts) :
    Linked s' :=
  h.same hqueue hlock hjob hattempt (fun _ a' ha' => ⟨a', hattempts ▸ ha', rfl, rfl, rfl⟩)

lemma Linked.advanceRetry (h : Linked s) (r : RetryRequest) : Linked (s.advanceRetry n r) := by
  unfold ExtractionState.advanceRetry
  split
  next =>
    split
    next => exact h.rewritten rfl rfl rfl rfl rfl
    next =>
      split
      next => exact h.rewritten rfl rfl rfl rfl rfl
      next => exact h.rewritten rfl rfl rfl rfl rfl
  next =>
    split
    next => exact h.rewritten rfl rfl rfl rfl rfl
    next => exact h.rewritten rfl rfl rfl rfl rfl
  next => exact h.rewritten rfl rfl rfl rfl rfl
  next =>
    have hset : Linked (s.setRetry n none) := h.rewritten rfl rfl rfl rfl rfl
    exact hset.addJob _

lemma Linked.scanned (h : Linked s) (d : Document) (status : MalwareScanStatus) (quarantined commits : Bool) :
    Linked (s.scanned d status quarantined commits) := by
  unfold ExtractionState.scanned
  dsimp only
  split
  next =>
    refine Linked.addJob (h.rewritten ?_ ?_ ?_ ?_ ?_) _ <;> cases commits <;> rfl
  next =>
    refine h.rewritten ?_ ?_ ?_ ?_ ?_ <;> cases commits <;> rfl

lemma Linked.next (h : Linked s) (e : ExtractionEvent) : Linked (s.next extract e) := by
  unfold ExtractionState.next
  cases e with
  | scanned documentId status quarantined commits =>
    dsimp only
    split
    next => exact h
    next => exact h.scanned _ status quarantined commits
  | start k =>
    dsimp only
    split
    next => exact h
    next j hj =>
      split
      next => exact h.start hj
      next => exact h
  | advance n call =>
    dsimp only
    split
    next => exact h
    next a ha => exact h.advance ha call
  | raise n message =>
    dsimp only
    split
    next => exact h
    next a ha => exact h.raise ha message
  | die n => exact h.endAttempt n
  | stall k => exact h.moveJob k (.stall false)
  | wake k => exact h.moveJob k .wake
  | evict k => exact h.moveJob k .evict
  | retry n organizationId extractionId =>
    dsimp only
    split
    next => exact h.rewritten rfl rfl rfl rfl rfl
    next => exact h
  | advanceRetry n =>
    dsimp only
    split
    next => exact h
    next r hr => exact h.advanceRetry r
  | tick now => exact h.rewritten rfl rfl rfl rfl rfl
  | initiate organizationId fileName uploadedByUserId => exact h.rewritten rfl rfl rfl rfl rfl
  | upload organizationId extractionId fileName uploadedByUserId => exact h.rewritten rfl rfl rfl rfl rfl
  | cutRetry n => exact h.rewritten rfl rfl rfl rfl rfl

lemma initial_linked {now : Instant} : Linked (initial now) :=
  ⟨by rintro k j ⟨⟩, by rintro k n ⟨⟩, by rintro n a ⟨⟩, by rintro k n a ⟨⟩⟩

end Linked

section Outstanding

lemma Outstanding.setPhase (h : s.Outstanding o x) (hlinked : Linked s) (ha : s.attempts n = some a) {phase : AttemptPhase}
    (hphase : phase = .returning → ¬ (a.job.organizationId = o ∧ a.job.extractionId = x)) :
    (s.setAttempt n (some { a with phase })).Outstanding o x := by
  have hset : (s.setAttempt n (some { a with phase })).attempts n = some { a with phase } := Function.update_self _ _ _
  cases h with
  | @job k j hj hpending horg hext hfree =>
    refine .job hj hpending horg hext (fun n' a' hk ha' hreturning => ?_)
    by_cases hn : n' = n
    · subst hn
      rw [hset] at ha'
      obtain rfl := Option.some.inj ha'
      obtain ⟨_, j', hj', _, hdata, _⟩ := hlinked.held k n' a hk ha
      obtain rfl := Option.some.inj (hj.symm.trans hj')
      rw [hdata] at horg hext
      exact hphase hreturning ⟨horg, hext⟩
    · exact hfree n' a' hk ((Function.update_of_ne hn _ _).symm.trans ha') hreturning
  | @attempt n' a' ha' horg hext hworking =>
    by_cases hn : n' = n
    · subst hn
      obtain rfl := Option.some.inj (ha.symm.trans ha')
      exact .attempt hset horg hext (fun hreturning => hphase hreturning ⟨horg, hext⟩)
    · exact .attempt ((Function.update_of_ne hn _ _).trans ha') horg hext hworking
  | retry hr hadding horg hext => exact .retry hr hadding horg hext

lemma Outstanding.setJob (h : s.Outstanding o x) (hj : s.queue k = some j) {job : Option (Job ExtractionJob)}
    (hkeep : j.pending = true → ∃ j', job = some j' ∧ j'.pending = true ∧ j'.data = j.data) :
    Outstanding { s with queue := Function.update s.queue k job, lock := Function.update s.lock k none } o x := by
  cases h with
  | @job k' j' hj' hpending horg hext hfree =>
    by_cases hk : k' = k
    · subst hk
      obtain rfl := Option.some.inj (hj.symm.trans hj')
      obtain ⟨j'', rfl, hstill, hdata⟩ := hkeep hpending
      refine .job (Function.update_self _ _ _) hstill (hdata ▸ horg) (hdata ▸ hext) (fun n a hlock _ => ?_)
      dsimp only at hlock
      rw [Function.update_self] at hlock
      cases hlock
    · refine .job ((Function.update_of_ne hk _ _).trans hj') hpending horg hext (fun n a hlock ha => ?_)
      exact hfree n a ((Function.update_of_ne hk _ _).symm.trans hlock) ha
  | attempt ha horg hext hworking => exact .attempt ha horg hext hworking
  | retry hr hadding horg hext => exact .retry hr hadding horg hext

lemma Outstanding.moveJob (h : s.Outstanding o x) (hm : m.works = false)
    (hkept : ∀ j, s.queue k = some j → j.givesUp maxAttempts m = false) : (s.moveJob k m).Outstanding o x := by
  obtain heq | ⟨j, job, hj, hmove, heq⟩ := s.moveJob_cases k m
  · rw [heq]
    exact h
  · rw [heq]
    refine h.setJob hj (fun hpending => ?_)
    obtain ⟨j', rfl, hdata, _, hstill⟩ | ⟨_, _, _, _, _, hcause⟩ | ⟨_, hover, _⟩ := Job.move_cases hmove
    · exact ⟨j', rfl, hstill, hdata⟩
    · rcases hcause with hworks | ⟨_, hover⟩
      · rw [hm] at hworks
        cases hworks
      · rw [hkept j hj] at hover
        cases hover
    · rw [hpending] at hover
      cases hover

lemma Outstanding.endAttempt (h : s.Outstanding o x) (hlinked : Linked s) (ha : s.attempts n = some a)
    (hdone : a.phase = .returning ∨ s.lock a.jobId = some n) : (s.setAttempt n none).Outstanding o x := by
  cases h with
  | @job k j hj hpending horg hext hfree =>
    exact .job hj hpending horg hext (fun n' a' hk ha' => hfree n' a' hk (attempts_endAttempt ha').2)
  | @attempt n' a' ha' horg hext hworking =>
    by_cases hn : n' = n
    · subst hn
      obtain rfl := Option.some.inj (ha.symm.trans ha')
      rcases hdone with hreturning | hlock
      · exact absurd hreturning hworking
      · obtain ⟨_, j, hj, hactive, hdata, _⟩ := hlinked.held _ n' a hlock ha
        refine .job hj (by rw [Job.pending, hactive]) (hdata ▸ horg) (hdata ▸ hext) (fun n'' a'' hk ha'' => ?_)
        obtain rfl := Option.some.inj (hlock.symm.trans hk)
        exact absurd rfl (attempts_endAttempt ha'').1
    · exact .attempt ((Function.update_of_ne hn _ _).trans ha') horg hext hworking
  | retry hr hadding horg hext => exact .retry hr hadding horg hext

lemma Outstanding.complete (h : s.Outstanding o x) (hlinked : Linked s) (ha : s.attempts n = some a)
    (hreturning : a.phase = .returning) : (s.leave n a .complete).Outstanding o x := by
  have hended := h.endAttempt hlinked ha (.inl hreturning)
  unfold ExtractionState.leave
  dsimp only
  split
  next hlock =>
    obtain heq | ⟨j, job, hj, _, heq⟩ := (s.setAttempt n none).moveJob_cases a.jobId .complete
    · rw [heq]
      exact hended
    · rw [heq]
      cases h with
      | @job k j' hj' hpending horg hext hfree =>
        by_cases hk : k = a.jobId
        · subst hk
          exact absurd hreturning (hfree n a hlock ha)
        · refine .job ((Function.update_of_ne hk _ _).trans hj') hpending horg hext (fun n' a' hlock' ha' => ?_)
          exact hfree n' a' ((Function.update_of_ne hk _ _).symm.trans hlock') (attempts_endAttempt ha').2
      | @attempt n' a' ha' horg hext hworking =>
        have hn : n' ≠ n := by
          rintro rfl
          obtain rfl := Option.some.inj (ha.symm.trans ha')
          exact hworking hreturning
        exact .attempt ((Function.update_of_ne hn _ _).trans ha') horg hext hworking
      | retry hr hadding horg hext => exact .retry hr hadding horg hext
  next => exact hended

lemma Outstanding.fail (h : s.Outstanding o x) (hlinked : Linked s) (ha : s.attempts n = some a)
    (hlock : s.lock a.jobId = some n) (hagain : a.attemptsMade + 1 < maxAttempts) : (s.leave n a .fail).Outstanding o x := by
  have hended := h.endAttempt hlinked ha (.inr hlock)
  unfold ExtractionState.leave
  dsimp only
  rw [if_pos hlock]
  refine hended.moveJob rfl (fun j hj => ?_)
  obtain ⟨_, j', hj', _, _, hmade⟩ := hlinked.held _ n a hlock ha
  obtain rfl := Option.some.inj (hj'.symm.trans hj)
  rw [Job.givesUp, hmade]
  exact decide_eq_false (not_le.mpr hagain)

lemma Outstanding.addJob (h : s.Outstanding o x) (hlinked : Linked s) (job : ExtractionJob) :
    (s.addJob job).Outstanding o x := by
  cases h with
  | @job k j hj hpending horg hext hfree =>
    exact .job ((Function.update_of_ne (hlinked.jobs k j hj).ne _ _).trans hj) hpending horg hext hfree
  | attempt ha horg hext hworking => exact .attempt ha horg hext hworking
  | retry hr hadding horg hext => exact .retry hr hadding horg hext

lemma outstanding_added (hlinked : Linked s) (job : ExtractionJob) :
    (s.addJob job).Outstanding job.organizationId job.extractionId := by
  refine .job (Function.update_self _ _ _) rfl rfl rfl (fun n a hlock _ => ?_)
  exact absurd (hlinked.locks _ _ hlock).2 (lt_irrefl _)

lemma Outstanding.setRetry (h : s.Outstanding o x)
    (hother : ∀ r job, s.retries n = some r → r.phase = .adding job → ¬ (job.organizationId = o ∧ job.extractionId = x))
    (request : Option RetryRequest) : (s.setRetry n request).Outstanding o x := by
  cases h with
  | job hj hpending horg hext hfree => exact .job hj hpending horg hext hfree
  | attempt ha horg hext hworking => exact .attempt ha horg hext hworking
  | @retry n' r job hr hadding horg hext =>
    have hn : n' ≠ n := by
      rintro rfl
      exact hother r job hr hadding ⟨horg, hext⟩
    exact .retry ((Function.update_of_ne hn _ _).trans hr) hadding horg hext

lemma Outstanding.same (h : s.Outstanding o x) (hqueue : s'.queue = s.queue) (hlock : s'.lock = s.lock)
    (hattempts : s'.attempts = s.attempts) (hretries : s'.retries = s.retries) : s'.Outstanding o x := by
  cases h with
  | job hj hpending horg hext hfree =>
    exact .job (hqueue ▸ hj) hpending horg hext (fun n a hk ha => hfree n a (hlock ▸ hk) (hattempts ▸ ha))
  | attempt ha horg hext hworking => exact .attempt (hattempts ▸ ha) horg hext hworking
  | retry hr hadding horg hext => exact .retry (hretries ▸ hr) hadding horg hext

lemma Outstanding.start (h : s.Outstanding o x) (hlinked : Linked s) (hj : s.queue k = some j) :
    Outstanding { s with
      queue := Function.update s.queue k (some { j with status := .active })
      lock := Function.update s.lock k (some s.freshAttempt)
      attempts := Function.update s.attempts s.freshAttempt (some ⟨k, j.data, j.attemptsMade, .reading .inProgress false⟩)
      freshAttempt := s.freshAttempt + 1 } o x := by
  cases h with
  | @job k' j' hj' hpending horg hext hfree =>
    by_cases hk : k' = k
    · subst hk
      obtain rfl := Option.some.inj (hj.symm.trans hj')
      refine .job (Function.update_self _ _ _) rfl horg hext (fun n a hlock ha hreturning => ?_)
      dsimp only at hlock ha
      rw [Function.update_self] at hlock
      obtain rfl := Option.some.inj hlock
      rw [Function.update_self] at ha
      rw [← Option.some.inj ha] at hreturning
      cases hreturning
    · refine .job ((Function.update_of_ne hk _ _).trans hj') hpending horg hext (fun n a hlock ha => ?_)
      have hold := (Function.update_of_ne hk _ _).symm.trans hlock
      exact hfree n a hold ((Function.update_of_ne (hlinked.locks k' n hold).1.ne _ _).symm.trans ha)
  | @attempt n a ha horg hext hworking =>
    exact .attempt ((Function.update_of_ne (hlinked.attempts n a ha).ne _ _).trans ha) horg hext hworking
  | retry hr hadding horg hext => exact .retry hr hadding horg hext

end Outstanding

section Attended

lemma get_write (records : Records) (now : Instant) (organizationId extractionId : Uuid) (record : ExtractionJobRecord) :
    RateConfirmationExtractionJobStore.get (write records now organizationId extractionId record) now o x =
      if o = organizationId ∧ x = extractionId then (some record).filter (fun r => r.organizationId == o)
      else RateConfirmationExtractionJobStore.get records now o x := by
  have hlater : now < now + ttl := lt_add_of_pos_right now (by decide)
  rw [RateConfirmationExtractionJobStore.get, write, Keys.get_set hlater]
  by_cases hkey : o = organizationId ∧ x = extractionId
  · rw [if_pos hkey, if_pos (Prod.ext hkey.1 hkey.2)]
  · rw [if_neg hkey, if_neg (fun h => hkey ⟨congrArg Prod.fst h, congrArg Prod.snd h⟩),
      RateConfirmationExtractionJobStore.get]

lemma moveJob_store (s : ExtractionState) (k : ℕ) (m : Move) :
    (s.moveJob k m).records = s.records ∧ (s.moveJob k m).now = s.now := by
  obtain heq | ⟨_, _, _, _, heq⟩ := s.moveJob_cases k m <;> rw [heq] <;> exact ⟨rfl, rfl⟩

lemma leave_store (s : ExtractionState) (n : ℕ) (a : Attempt) (m : Move) :
    (s.leave n a m).records = s.records ∧ (s.leave n a m).now = s.now := by
  unfold ExtractionState.leave
  dsimp only
  split
  next => exact moveJob_store ..
  next => exact ⟨rfl, rfl⟩

def Owed (s : ExtractionState) : Prop :=
  ∀ o x r, RateConfirmationExtractionJobStore.get s.records s.now o x = some r → r.extractionStatus = .pending →
    s.Outstanding o x

lemma Owed.same (h : Owed s) (hrecords : s'.records = s.records) (hnow : s'.now = s.now)
    (houtstanding : ∀ o x r, RateConfirmationExtractionJobStore.get s.records s.now o x = some r →
      r.extractionStatus = .pending → s.Outstanding o x → s'.Outstanding o x) : Owed s' := by
  intro o x r hget hpending
  rw [hrecords, hnow] at hget
  exact houtstanding o x r hget hpending (h o x r hget hpending)

lemma Owed.catchError (h : Owed s) (hlinked : Linked s) (ha : s.attempts n = some a)
    (hlock : a.attemptsMade + 1 < maxAttempts → s.lock a.jobId = some n) (message : String) :
    Owed (s.catchError n a message) := by
  unfold ExtractionState.catchError
  split
  next => exact h.same rfl rfl (fun _ _ _ _ _ hold => hold.setPhase hlinked ha (by rintro ⟨⟩))
  next hagain =>
    have hbelow : a.attemptsMade + 1 < maxAttempts := Nat.lt_of_not_le hagain
    obtain ⟨hrecords, hnow⟩ := s.leave_store n a .fail
    exact h.same hrecords hnow (fun _ _ _ _ _ hold => hold.fail hlinked ha (hlock hbelow) hbelow)

lemma Owed.advance (h : Owed s) (hlinked : Linked s) (ha : s.attempts n = some a) (call : ℕ)
    (hguard : ∀ message, a.phase = .extracting → extract a.job call = .error message → a.attemptsMade + 1 < maxAttempts →
      s.lock a.jobId = some n) : Owed (s.advance extract n a call) := by
  unfold ExtractionState.advance
  cases hcase : a.phase with
  | reading mark caught =>
    dsimp only
    cases hget : RateConfirmationExtractionJobStore.get s.records s.now a.job.organizationId a.job.extractionId with
    | none =>
      refine h.same rfl rfl (fun o x r hr _ hold => hold.setPhase hlinked ha (fun _ hkey => ?_))
      obtain ⟨rfl, rfl⟩ := hkey
      rw [hget] at hr
      cases hr
    | some existing => exact h.same rfl rfl (fun _ _ _ _ _ hold => hold.setPhase hlinked ha (by rintro ⟨⟩))
  | writing mark caught existing =>
    intro o x r hr hpending
    dsimp only [ExtractionState.setAttempt] at hr
    rw [get_write] at hr
    have hset : (s.setAttempt n (some { a with phase := .after mark })).attempts n = some { a with phase := .after mark } :=
      Function.update_self _ _ _
    split at hr
    next hkey =>
      obtain ⟨hmark, _⟩ := Option.filter_eq_some_iff.mp hr
      obtain rfl := Option.some.inj hmark
      cases mark with
      | inProgress => exact .attempt hset hkey.1.symm hkey.2.symm (by rintro ⟨⟩)
      | complete data => cases hpending
      | failed error => cases hpending
    next hkey =>
      have hold : (s.setAttempt n (some { a with phase := .after mark })).Outstanding o x :=
        (h o x r hr hpending).setPhase hlinked ha (fun _ hsame => hkey ⟨hsame.1.symm, hsame.2.symm⟩)
      exact hold.same rfl rfl rfl rfl
  | extracting =>
    dsimp only
    cases hread : extract a.job call with
    | error message => exact h.catchError hlinked ha (hguard message hcase hread) message
    | ok outcome =>
      cases outcome with
      | multiLoadDetected => exact h.same rfl rfl (fun _ _ _ _ _ hold => hold.setPhase hlinked ha (by rintro ⟨⟩))
      | data data => exact h.same rfl rfl (fun _ _ _ _ _ hold => hold.setPhase hlinked ha (by rintro ⟨⟩))
  | returning =>
    obtain ⟨hrecords, hnow⟩ := s.leave_store n a .complete
    exact h.same hrecords hnow (fun _ _ _ _ _ hold => hold.complete hlinked ha hcase)

lemma Owed.raise (h : Owed s) (hlinked : Linked s) (ha : s.attempts n = some a) (message : String)
    (hguard : a.phase ≠ .returning → a.phase.caught = false ∧ (a.attemptsMade + 1 < maxAttempts → s.lock a.jobId = some n)) :
    Owed (s.raise n a message) := by
  unfold ExtractionState.raise
  split
  next => exact h
  next hworking =>
    obtain ⟨huncaught, hlock⟩ := hguard (fun hreturning => hworking hreturning)
    rw [huncaught]
    exact h.catchError hlinked ha hlock message

lemma Owed.advanceRetry {request : RetryRequest} (h : Owed s) (hlinked : Linked s) (hr : s.retries n = some request)
    (hsound : RetrySound extract s request) : Owed (s.advanceRetry n request) := by
  have hidle (hphase : ∀ job, request.phase ≠ .adding job) (next : Option RetryRequest) : Owed (s.setRetry n next) := by
    refine h.same rfl rfl (fun o x r _ _ hold => hold.setRetry (fun r' job hr' hadding => ?_) next)
    obtain rfl := Option.some.inj (hr.symm.trans hr')
    exact absurd hadding (hphase job)
  unfold ExtractionState.advanceRetry
  cases hcase : request.phase with
  | found record =>
    have hphase : ∀ job, request.phase ≠ .adding job := by simp [hcase]
    dsimp only
    split
    next => exact hidle hphase _
    next =>
      split
      next => exact hidle hphase _
      next => exact hidle hphase _
  | reading job =>
    have hphase : ∀ job, request.phase ≠ .adding job := by simp [hcase]
    dsimp only
    split
    next => exact hidle hphase _
    next => exact hidle hphase _
  | writing job existing =>
    have hphase : ∀ job, request.phase ≠ .adding job := by simp [hcase]
    simp only [RetrySound, hcase] at hsound
    obtain ⟨⟨_, horg, hext⟩, _⟩ := hsound
    intro o x r hget hpending
    dsimp only [ExtractionState.setRetry] at hget
    rw [get_write] at hget
    split at hget
    next hkey =>
      exact .retry (Function.update_self _ _ _) rfl (horg.trans hkey.1.symm) (hext.trans hkey.2.symm)
    next hkey => exact (hidle hphase (some { request with phase := .adding job }) o x r hget hpending).same rfl rfl rfl rfl
  | adding job =>
    have hset : Linked (s.setRetry n none) := hlinked.rewritten rfl rfl rfl rfl rfl
    intro o x r hget hpending
    by_cases hkey : job.organizationId = o ∧ job.extractionId = x
    · obtain ⟨rfl, rfl⟩ := hkey
      exact outstanding_added hset job
    · refine ((h o x r hget hpending).setRetry (fun r' job' hr' hadding => ?_) none).addJob hset job
      obtain rfl := Option.some.inj (hr.symm.trans hr')
      rw [hcase] at hadding
      cases hadding
      exact hkey

lemma Owed.scanned (h : Owed s) (hlinked : Linked s) (d : Document) (status : MalwareScanStatus)
    (quarantined commits : Bool) : Owed (s.scanned d status quarantined commits) := by
  have hadded (key : StorageKey) : Owed (s.addJob ⟨d.entityId, d.id, d.organizationId, key⟩) :=
    h.same rfl rfl (fun _ _ _ _ _ hold => hold.addJob hlinked _)
  unfold ExtractionState.scanned
  dsimp only
  cases commits with
  | true =>
    split
    next => exact (hadded _).same rfl rfl (fun _ _ _ _ _ hold => hold.same rfl rfl rfl rfl)
    next => exact h.same rfl rfl (fun _ _ _ _ _ hold => hold.same rfl rfl rfl rfl)
  | false =>
    split
    next => exact (hadded _).same rfl rfl (fun _ _ _ _ _ hold => hold.same rfl rfl rfl rfl)
    next => exact h

lemma Owed.next (h : Owed s) (hlinked : Linked s) (hcoherent : Coherent extract s) {e : ExtractionEvent}
    (hguard : s.Attends extract e) : Owed (s.next extract e) := by
  unfold ExtractionState.next
  cases e with
  | tick now =>
    intro o x r hget hpending
    dsimp only [RateConfirmationExtractionJobStore.get] at hget
    obtain ⟨hlive, hown⟩ := Option.filter_eq_some_iff.mp hget
    have hearlier : RateConfirmationExtractionJobStore.get s.records s.now o x = some r :=
      Option.filter_eq_some_iff.mpr ⟨Keys.get_earlier (le_max_left s.now now) hlive, hown⟩
    exact (h o x r hearlier hpending).same rfl rfl rfl rfl
  | initiate organizationId fileName uploadedByUserId =>
    intro o x r hget hpending
    dsimp only [ExtractionState.addDocument] at hget
    rw [get_write] at hget
    split at hget
    next =>
      obtain ⟨hcreated, _⟩ := Option.filter_eq_some_iff.mp hget
      obtain rfl := Option.some.inj hcreated
      cases hpending
    next => exact (h o x r hget hpending).same rfl rfl rfl rfl
  | upload organizationId extractionId fileName uploadedByUserId =>
    exact h.same rfl rfl (fun _ _ _ _ _ hold => hold.same rfl rfl rfl rfl)
  | scanned documentId status quarantined commits =>
    dsimp only
    split
    next => exact h
    next d _ => exact h.scanned hlinked d status quarantined commits
  | start k =>
    dsimp only
    split
    next => exact h
    next j hj =>
      split
      next => exact h.same rfl rfl (fun _ _ _ _ _ hold => hold.start hlinked hj)
      next => exact h
  | advance n call =>
    dsimp only
    split
    next => exact h
    next a ha => exact h.advance hlinked ha call (fun message hphase hread hagain =>
      hguard a ha hphase (by rw [hread]; rfl) hagain)
  | raise n message =>
    dsimp only
    split
    next => exact h
    next a ha => exact h.raise hlinked ha message (hguard a ha)
  | die n =>
    dsimp only
    cases ha : s.attempts n with
    | none =>
      have hsame : (s.setAttempt n none).attempts = s.attempts := by
        dsimp only [ExtractionState.setAttempt]
        rw [← ha, Function.update_eq_self]
      exact h.same rfl rfl (fun _ _ _ _ _ hold => hold.same rfl rfl hsame rfl)
    | some a =>
      refine h.same rfl rfl (fun _ _ _ _ _ hold => hold.endAttempt hlinked ha ?_)
      by_cases hreturning : a.phase = .returning
      · exact .inl hreturning
      · exact .inr (hguard a ha hreturning)
  | stall k =>
    obtain ⟨hrecords, hnow⟩ := s.moveJob_store k (.stall false)
    exact h.same hrecords hnow (fun _ _ _ _ _ hold => hold.moveJob rfl hguard)
  | wake k =>
    obtain ⟨hrecords, hnow⟩ := s.moveJob_store k .wake
    exact h.same hrecords hnow (fun _ _ _ _ _ hold => hold.moveJob rfl (fun _ _ => rfl))
  | evict k =>
    obtain ⟨hrecords, hnow⟩ := s.moveJob_store k .evict
    exact h.same hrecords hnow (fun _ _ _ _ _ hold => hold.moveJob rfl (fun _ _ => rfl))
  | retry n organizationId extractionId =>
    dsimp only
    split
    next record hfree hget =>
      refine h.same rfl rfl (fun _ _ _ _ _ hold => hold.setRetry (fun r job hr => ?_) _)
      rw [hfree] at hr
      cases hr
    next => exact h
  | advanceRetry n =>
    dsimp only
    split
    next => exact h
    next r hr => exact h.advanceRetry hlinked hr (hcoherent.retries n r hr)
  | cutRetry n =>
    refine h.same rfl rfl (fun _ _ _ _ _ hold => hold.setRetry (fun r job hr hadding => ?_) none)
    have hidle := hguard r hr
    rw [hadding] at hidle
    cases hidle

end Attended

end ExtractionState

open ExtractionState

namespace ExtractionState

lemma advanceRetry_retries {s : ExtractionState} {r : RetryRequest} {m n : ℕ} (hm : m ≠ n) :
    (s.advanceRetry n r).retries m = s.retries m := by
  have hset (s : ExtractionState) (request : Option RetryRequest) : (s.setRetry n request).retries m = s.retries m :=
    Function.update_of_ne hm _ _
  unfold ExtractionState.advanceRetry
  cases r.phase with
  | found record =>
    dsimp only
    split
    next => exact hset s _
    next => split <;> exact hset s _
  | reading job =>
    dsimp only
    split <;> exact hset s _
  | writing job existing => exact hset s _
  | adding job => exact hset s _

lemma retries_of_next {extract : Extractor} {s : ExtractionState} {n : ℕ} (e : ExtractionEvent) (hnone : s.retries n = none)
    (he : ∀ organizationId extractionId, e ≠ .retry n organizationId extractionId) : (s.next extract e).retries n = none := by
  by_cases hworker : e.ofWorker = true
  · obtain ⟨_, _, _, _, _, heq⟩ := worked_next extract s hworker
    rw [heq]
    exact hnone
  cases e with
  | retry n' organizationId extractionId =>
    have hn : n ≠ n' := by
      rintro rfl
      exact he organizationId extractionId rfl
    unfold ExtractionState.next
    dsimp only
    split
    next => exact (Function.update_of_ne hn _ _).trans hnone
    next => exact hnone
  | advanceRetry n' =>
    unfold ExtractionState.next
    dsimp only
    split
    next => exact hnone
    next r hr =>
      have hn : n ≠ n' := by
        rintro rfl
        rw [hnone] at hr
        cases hr
      exact (advanceRetry_retries hn).trans hnone
  | cutRetry n' =>
    by_cases hn : n = n'
    · subst hn
      exact Function.update_self _ _ _
    · exact (Function.update_of_ne hn _ _).trans hnone
  | scanned documentId status quarantined commits =>
    unfold ExtractionState.next
    dsimp only
    split
    next => exact hnone
    next =>
      unfold ExtractionState.scanned
      dsimp only
      split <;> cases commits <;> exact hnone
  | tick now => exact hnone
  | upload organizationId extractionId fileName uploadedByUserId => exact hnone
  | initiate organizationId fileName uploadedByUserId => exact hnone
  | _ => exact absurd rfl hworker

end ExtractionState

namespace ExtractionSample

def isRetryOf (n : ℕ) : ExtractionEvent → Bool
  | .retry n' _ _ => n' == n
  | _ => false

lemma no_retries {es : List ExtractionEvent} {n : ℕ} (h : ∀ e ∈ es, isRetryOf n e = false) :
    (after extract 0 es).retries n = none := by
  induction es using List.reverseRecOn with
  | nil => rfl
  | append_singleton es e ih =>
    have hlast : isRetryOf n e = false := h e (List.mem_append_right _ (List.mem_singleton.mpr rfl))
    rw [after, List.foldl_append, List.foldl_cons, List.foldl_nil]
    refine retries_of_next e (ih (fun e he => h e (List.mem_append_left _ he))) (fun organizationId extractionId hretry => ?_)
    rw [hretry, isRetryOf, beq_self_eq_true] at hlast
    cases hlast

lemma retried_linked : Linked (after extract 0 retried) :=
  (run_total _ _ _).invariant (fun s e t (hs : Linked s) (he : s.next extract e = t) => he ▸ hs.next e) initial_linked

end ExtractionSample

end Truckmaster.RateConfirmationExtraction
