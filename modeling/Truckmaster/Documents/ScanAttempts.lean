import Truckmaster.Documents.InfectedDocuments

namespace Truckmaster.Documents

open Common Fallible Runs

variable {copiesOntoItself : Bool} {s t : ScanState} {job job' : ScanJob} {now : Instant} {answer : Answer}
  {message : String} {e : ScanEvent}

namespace ScanJob

def betweenAttempts (job : ScanJob) : Bool :=
  match job.phase with
  | .waiting => true
  | .completed => true
  | .failed => true
  | _ => false

def ended (job : ScanJob) : Bool := job.phase == .completed || job.phase == .failed

def moved (job : ScanJob) : Bool :=
  match job.phase with
  | .applying result _ (.extract _) => result.status != .clean
  | .applying result _ (.commit _) => result.status != .clean
  | _ => false

def uncaught (job : ScanJob) : Bool :=
  match job.phase with
  | .applying _ call _ => call != .tried && decide (maxAttempts ≤ job.attemptsMade + 1)
  | _ => false

def quarantining (job : ScanJob) : Bool :=
  match job.phase with
  | .applying result _ .find => result.status != .clean
  | _ => false

end ScanJob

namespace ScanState

/-- A Document whose object has been uploaded, with any number of confirmations and of scan jobs that wait. -/
structure Uploaded (s : ScanState) : Prop where
  pending : s.document.scanStatus = .pending
  key : s.document.fileStorageKey = s.document.documentKey
  stored : s.objects s.document.documentKey = true
  jobs : ∀ job ∈ s.jobs, job.phase = .waiting

def Stored (s : ScanState) : Prop := s.objects s.document.fileStorageKey = true

structure Agrees (s : ScanState) : Prop where
  stored : (∀ job ∈ s.jobs, job.betweenAttempts = true) → s.Stored
  settled : ∀ job ∈ s.jobs, job.ended = true → s.document.scanStatus ≠ .pending

/-- Attempts do not overlap, no failure comes between the move to quarantine and the commit or in a call that nothing
catches, and what is in quarantine is not moved there again. -/
def Orderly (s : ScanState) : ScanEvent → Prop
  | .start _ _ => ∀ job ∈ s.jobs, job.betweenAttempts = true
  | .advance n (.error _) _ => ∀ job ∈ s.jobs[n]?, job.moved = false ∧ job.uncaught = false
  | .advance n .done _ => ∀ job ∈ s.jobs[n]?, job.quarantining = true →
      s.document.fileStorageKey ≠ s.document.quarantineKey
  | _ => True

def ItsKey (s : ScanState) (key : StorageKey) : Prop := key = s.document.documentKey ∨ key = s.document.quarantineKey

structure Ready (s : ScanState) (result : MalwareScanResult) (key : StorageKey) : Prop where
  object : s.objects key = true
  key : s.ItsKey key
  clean : result.status = .clean → s.Stored

def Tracks (s : ScanState) (job : ScanJob) : Prop :=
  match job.phase with
  | .waiting => s.Stored
  | .scanning _ => s.Stored
  | .applying _ _ .find => s.Stored
  | .applying result _ (.copy key) => s.Stored ∧ key = s.document.documentKey ∧ result.status ≠ .clean
  | .applying result _ (.delete key) =>
    s.Stored ∧ key = s.document.documentKey ∧ result.status ≠ .clean ∧ s.objects s.document.quarantineKey = true
  | .applying result _ (.extract key) => s.Ready result key
  | .applying result _ (.commit key) => s.Ready result key
  | .completed => s.Stored ∧ s.document.scanStatus ≠ .pending
  | .failed => False

lemma Stored.of_same (h : s.Stored) (hdocument : t.document = s.document)
    (hobjects : ∀ key, s.objects key = true → t.objects key = true) : t.Stored := by
  rw [Stored, hdocument]
  exact hobjects _ h

lemma Ready.of_same {result : MalwareScanResult} {key : StorageKey} (h : s.Ready result key)
    (hdocument : t.document = s.document) (hobjects : ∀ key, s.objects key = true → t.objects key = true) :
    t.Ready result key where
  object := hobjects _ h.object
  key := by
    rw [ItsKey, hdocument]
    exact h.key
  clean hclean := (h.clean hclean).of_same hdocument hobjects

lemma Tracks.of_same (h : s.Tracks job) (hdocument : t.document = s.document)
    (hobjects : ∀ key, s.objects key = true → t.objects key = true) : t.Tracks job := by
  unfold Tracks at h ⊢
  split at h
  · exact h.of_same hdocument hobjects
  · exact h.of_same hdocument hobjects
  · exact h.of_same hdocument hobjects
  · exact ⟨h.1.of_same hdocument hobjects, hdocument ▸ h.2⟩
  · exact ⟨h.1.of_same hdocument hobjects, hdocument ▸ h.2.1, h.2.2.1, hdocument ▸ hobjects _ h.2.2.2⟩
  · exact h.of_same hdocument hobjects
  · exact h.of_same hdocument hobjects
  · exact ⟨h.1.of_same hdocument hobjects, hdocument ▸ h.2⟩
  · exact h

lemma Tracks.stored (h : s.Tracks job) (hbetween : job.betweenAttempts = true) : s.Stored := by
  unfold Tracks at h
  unfold ScanJob.betweenAttempts at hbetween
  cases hphase : job.phase with
  | waiting =>
    rw [hphase] at h
    exact h
  | completed =>
    rw [hphase] at h
    exact h.1
  | failed =>
    rw [hphase] at h
    exact h.elim
  | _ => simp [hphase] at hbetween

lemma Tracks.settled (h : s.Tracks job) (hended : job.ended = true) : s.document.scanStatus ≠ .pending := by
  unfold Tracks at h
  cases hphase : job.phase with
  | completed =>
    rw [hphase] at h
    exact h.2
  | failed =>
    rw [hphase] at h
    exact h.elim
  | _ => simp [ScanJob.ended, hphase] at hended

lemma Tracks.stored_of_applying {result : MalwareScanResult} {call : ApplyCall} {stage : ApplyStage} (h : s.Tracks job)
    (hphase : job.phase = .applying result call stage) (hmoved : job.moved = false) : s.Stored := by
  unfold Tracks at h
  rw [hphase] at h
  cases stage with
  | find => exact h
  | copy key => exact h.1
  | delete key => exact h.1
  | extract key => exact h.clean (by simpa [ScanJob.moved, hphase] using hmoved)
  | commit key => exact h.clean (by simpa [ScanJob.moved, hphase] using hmoved)

lemma Stored.tracks_rethrow (h : s.Stored) (hmore : job.attemptsMade + 1 < maxAttempts) : s.Tracks job.rethrow := by
  simp only [Tracks, ScanJob.rethrow, if_neg (Nat.not_le_of_lt hmore)]
  exact h

lemma Stored.tracks_catchError (h : s.Stored) (message : String) : s.Tracks (job.catchError message) := by
  unfold ScanJob.catchError
  split
  · exact h
  next hmore => exact h.tracks_rethrow (Nat.lt_of_not_le hmore)

lemma Tracks.failed (h : s.Tracks job) (hmoved : job.moved = false) (huncaught : job.uncaught = false)
    (hanswered : s.answered copiesOntoItself job now (.error message) = some (t, job')) : t.Tracks job' := by
  cases hphase : job.phase with
  | scanning fetched =>
    simp only [answered, hphase, Option.some.injEq, Prod.mk.injEq] at hanswered
    obtain ⟨rfl, rfl⟩ := hanswered
    have hstored : s.Stored := by
      unfold Tracks at h
      rwa [hphase] at h
    exact hstored.tracks_catchError message
  | applying result call stage =>
    simp only [answered, hphase, Option.some.injEq, Prod.mk.injEq] at hanswered
    obtain ⟨rfl, rfl⟩ := hanswered
    have hstored := h.stored_of_applying hphase hmoved
    cases call with
    | tried => exact hstored.tracks_catchError message
    | caught => exact hstored.tracks_rethrow (by simpa [ScanJob.uncaught, hphase] using huncaught)
    | bypassed => exact hstored.tracks_rethrow (by simpa [ScanJob.uncaught, hphase] using huncaught)
  | _ => simp [answered, hphase] at hanswered

lemma tracks_scanned {result : MalwareScanResult} {key : StorageKey} (h : s.objects key = true) :
    (s.scanned result key now).Stored ∧ (s.scanned result key now).document.scanStatus ≠ .pending := by
  have hstatus : result.status.documentStatus ≠ .pending := by
    cases result.status <;> decide
  simp only [Stored, scanned, notifyQuarantined]
  split_ifs <;> exact ⟨h, hstatus⟩

lemma documentKey_ne_quarantineKey (document : Document) : document.quarantineKey ≠ document.documentKey := nofun

lemma Tracks.done (h : s.Tracks job) (hkey : s.ItsKey s.document.fileStorageKey)
    (hfirst : job.quarantining = true → s.document.fileStorageKey ≠ s.document.quarantineKey)
    (hanswered : s.answered copiesOntoItself job now .done = some (t, job')) : t.Tracks job' := by
  cases hphase : job.phase with
  | applying result call stage =>
    unfold Tracks at h
    rw [hphase] at h
    simp only [answered, hphase] at hanswered
    cases stage with
    | find =>
      obtain ⟨rfl, rfl⟩ := Prod.mk.inj (Option.some.inj hanswered)
      have hstored : s.Stored := h
      unfold Tracks
      by_cases hclean : result.status = .clean
      · simp only [ScanJob.resume, if_pos hclean]
        exact ⟨hstored, hkey, fun _ => hstored⟩
      · simp only [ScanJob.resume, if_neg hclean]
        have hnew := hfirst (by simp [ScanJob.quarantining, hphase, hclean])
        exact ⟨hstored, hkey.resolve_right hnew, hclean⟩
    | copy key =>
      obtain ⟨hstored, hkey, hclean⟩ := h
      obtain ⟨_, hcopied⟩ := Option.ite_none_right_eq_some.mp hanswered
      obtain ⟨rfl, rfl⟩ := Prod.mk.inj (Option.some.inj hcopied)
      refine ⟨hstored.of_same rfl (fun k hk => ?_), hkey, hclean, Function.update_self ..⟩
      simp only [setObject, Function.update_apply]
      split
      · rfl
      · exact hk
    | delete key =>
      obtain ⟨_, rfl, hclean, hquarantined⟩ := h
      obtain ⟨rfl, rfl⟩ := Prod.mk.inj (Option.some.inj hanswered)
      refine ⟨?_, Or.inr rfl, fun h => absurd h hclean⟩
      have hother : (s.setObject s.document.documentKey false).objects s.document.quarantineKey =
        s.objects s.document.quarantineKey := Function.update_of_ne (documentKey_ne_quarantineKey s.document) false s.objects
      exact hother.trans hquarantined
    | extract key =>
      obtain ⟨rfl, rfl⟩ := Prod.mk.inj (Option.some.inj hanswered)
      have hsame : (s.enqueueExtraction result key).document = s.document ∧
          (s.enqueueExtraction result key).objects = s.objects := by
        unfold enqueueExtraction
        split <;> exact ⟨rfl, rfl⟩
      exact Ready.of_same h hsame.1 (fun key hkey => hsame.2 ▸ hkey)
    | commit key =>
      obtain ⟨rfl, rfl⟩ := Prod.mk.inj (Option.some.inj hanswered)
      exact tracks_scanned h.object
  | _ => simp [answered, hphase] at hanswered

lemma Tracks.verdict {result : MalwareScanResult} (h : s.Tracks job)
    (hanswered : s.answered copiesOntoItself job now (.verdict result) = some (t, job')) : t.Tracks job' := by
  cases hphase : job.phase with
  | scanning fetched =>
    cases fetched with
    | true =>
      simp only [answered, hphase, Option.some.injEq, Prod.mk.injEq] at hanswered
      obtain ⟨rfl, rfl⟩ := hanswered
      unfold Tracks at h
      rwa [hphase] at h
    | false => simp [answered, hphase] at hanswered
  | _ => simp [answered, hphase] at hanswered

lemma scanned_row (s : ScanState) (result : MalwareScanResult) (key : StorageKey) (now : Instant) :
    (s.scanned result key now).document.fileStorageKey = key ∧ (s.ItsKey key → (s.scanned result key now).ItsKey key) := by
  simp only [scanned, notifyQuarantined]
  split_ifs <;> exact ⟨rfl, id⟩

lemma Tracks.row (h : s.Tracks job) (hkey : s.ItsKey s.document.fileStorageKey)
    (hanswered : s.answered copiesOntoItself job now answer = some (t, job')) :
    t.ItsKey t.document.fileStorageKey ∧ (s.document.scanStatus ≠ .pending → t.document.scanStatus ≠ .pending) := by
  rcases answered_cases hanswered with ⟨_, hsame⟩ | ⟨result, call, key, hphase, _, rfl, _⟩
  · rw [ItsKey, hsame.document]
    exact ⟨hkey, id⟩
  · unfold Tracks at h
    rw [hphase] at h
    have hready : s.Ready result key := h
    obtain ⟨hwritten, hits⟩ := scanned_row s result key now
    rw [hwritten]
    exact ⟨hits hready.key, fun _ => (tracks_scanned hready.object).2⟩

def Alone (s : ScanState) (n : ℕ) : Prop := ∀ m : ℕ, m ≠ n → ∀ other ∈ s.jobs[m]?, other.betweenAttempts = true

structure Tracked (s : ScanState) : Prop where
  key : s.ItsKey s.document.fileStorageKey
  agrees : s.Agrees
  underway : ∀ n : ℕ, ∀ job ∈ s.jobs[n]?, job.betweenAttempts = false → s.Tracks job ∧ s.Alone n

lemma Uploaded.tracked (h : s.Uploaded) : s.Tracked where
  key := Or.inl h.key
  agrees :=
    { stored := fun _ => by
        rw [Stored, h.key]
        exact h.stored
      settled := fun job hjob hended => by simp [ScanJob.ended, h.jobs job hjob] at hended }
  underway n job hjob hunderway := by
    simp [ScanJob.betweenAttempts, h.jobs job (List.mem_of_getElem? hjob)] at hunderway

lemma betweenAttempts_of_waiting (h : job.phase = .waiting) : job.betweenAttempts = true := by
  simp [ScanJob.betweenAttempts, h]

lemma Tracked.grow (hs : s.Tracked) (hdocument : t.document = s.document)
    (hobjects : ∀ key, s.objects key = true → t.objects key = true)
    (hjobs : t.jobs = s.jobs ∨ ∃ job, job.phase = .waiting ∧ t.jobs = s.jobs ++ [job]) : t.Tracked := by
  have hold {n : ℕ} {job : ScanJob} (hjob : job ∈ t.jobs[n]?) : job ∈ s.jobs[n]? ∨ job.phase = .waiting := by
    rcases hjobs with hjobs | ⟨new, hnew, hjobs⟩
    · exact Or.inl (hjobs ▸ hjob)
    · rw [hjobs, List.getElem?_append] at hjob
      split at hjob
      · exact Or.inl hjob
      · rw [List.getElem?_singleton] at hjob
        split at hjob
        · exact Or.inr (Option.some.inj hjob ▸ hnew)
        · cases hjob
  have hkept : ∀ job ∈ s.jobs, job ∈ t.jobs := by
    rcases hjobs with hjobs | ⟨new, _, hjobs⟩ <;> intro job hjob <;> simp [hjobs, hjob]
  constructor
  · rw [ItsKey, hdocument]
    exact hs.key
  · refine ⟨fun hall => (hs.agrees.stored (fun job hjob => hall job (hkept job hjob))).of_same hdocument hobjects,
      fun job hjob hended => ?_⟩
    obtain ⟨n, hn⟩ := List.getElem?_of_mem hjob
    rcases hold hn with hjob | hwaiting
    · rw [hdocument]
      exact hs.agrees.settled job (List.mem_of_getElem? hjob) hended
    · simp [ScanJob.ended, hwaiting] at hended
  · intro n job hjob hunderway
    rcases hold hjob with hjob | hwaiting
    · obtain ⟨htracks, halone⟩ := hs.underway n job hjob hunderway
      refine ⟨htracks.of_same hdocument hobjects, fun m hm other hother => ?_⟩
      exact (hold hother).elim (halone m hm other) betweenAttempts_of_waiting
    · rw [betweenAttempts_of_waiting hwaiting] at hunderway
      cases hunderway

lemma Tracked.set {n : ℕ} (hs : s.Tracked) (hjob : s.jobs[n]? = some job)
    (halone : s.Alone n) (hjobs : t.jobs = s.jobs) (hkey : t.ItsKey t.document.fileStorageKey)
    (hsettled : s.document.scanStatus ≠ .pending → t.document.scanStatus ≠ .pending) (htracks : t.Tracks job') :
    (t.setJob n job').Tracked := by
  obtain ⟨hlt, _⟩ := List.getElem?_eq_some_iff.mp hjob
  have hset : (t.setJob n job').jobs = s.jobs.set n job' := by rw [setJob, hjobs]
  have hfrom (m : ℕ) (other : ScanJob) (hother : other ∈ (t.setJob n job').jobs[m]?) :
      (m = n ∧ other = job') ∨ (m ≠ n ∧ other ∈ s.jobs[m]?) := by
    rw [hset] at hother
    by_cases hm : m = n
    · subst hm
      rw [List.getElem?_set_self hlt] at hother
      exact Or.inl ⟨rfl, (Option.some.inj hother).symm⟩
    · rw [List.getElem?_set_ne (Ne.symm hm)] at hother
      exact Or.inr ⟨hm, hother⟩
  have hself : job' ∈ (t.setJob n job').jobs := by
    rw [hset]
    exact List.mem_set hlt job'
  refine ⟨hkey, ⟨fun hall => htracks.stored (hall job' hself), fun other hother hended => ?_⟩, ?_⟩
  · obtain ⟨m, hm⟩ := List.getElem?_of_mem hother
    rcases hfrom m other hm with ⟨_, rfl⟩ | ⟨_, hold⟩
    · exact htracks.settled hended
    · exact hsettled (hs.agrees.settled other (List.mem_of_getElem? hold) hended)
  · intro m other hother hunderway
    rcases hfrom m other hother with ⟨rfl, rfl⟩ | ⟨hm, hold⟩
    · refine ⟨htracks.of_same rfl (fun _ => id), fun k hk last hlast => ?_⟩
      rcases hfrom k last hlast with ⟨rfl, _⟩ | ⟨_, hlast⟩
      · exact absurd rfl hk
      · exact halone k hk last hlast
    · rw [halone m hm other hold] at hunderway
      cases hunderway

lemma answered_underway (h : s.answered copiesOntoItself job now answer = some (t, job')) :
    job.betweenAttempts = false := by
  cases hphase : job.phase with
  | waiting => cases answer <;> simp [answered, hphase] at h
  | completed => cases answer <;> simp [answered, hphase] at h
  | failed => cases answer <;> simp [answered, hphase] at h
  | _ => simp [ScanJob.betweenAttempts, hphase]

lemma tracked_step (hs : s.Tracked) (horderly : s.Orderly e) (h : s.step copiesOntoItself e = some t) : t.Tracked := by
  cases e with
  | putObject =>
    obtain rfl := Option.some.inj h
    refine hs.grow rfl (fun key hkey => ?_) (Or.inl rfl)
    simp only [setObject, Function.update_apply]
    split
    · rfl
    · exact hkey
  | confirmUpload actingUserId =>
    simp only [step, confirmUpload, ensure] at h
    split at h
    · cases h
      exact hs.grow rfl (fun _ => id) (Or.inl rfl)
    · cases h
  | addScanJob n =>
    obtain ⟨confirmation, _, h⟩ := Option.bind_eq_some_iff.mp h
    obtain rfl := Option.some.inj h
    exact hs.grow rfl (fun _ => id) (Or.inr ⟨_, rfl, rfl⟩)
  | start n malwareScanEnabled =>
    obtain ⟨job, hjob, h⟩ := Option.bind_eq_some_iff.mp h
    obtain ⟨_, hset⟩ := Option.ite_none_right_eq_some.mp h
    obtain rfl := Option.some.inj hset
    have hstarted : s.Tracks (s.started job malwareScanEnabled) := by
      unfold started
      split <;> exact hs.agrees.stored horderly
    exact hs.set hjob (fun m _ other hother => horderly other (List.mem_of_getElem? hother)) rfl hs.key id hstarted
  | advance n answer now =>
    obtain ⟨job, hjob, h⟩ := Option.bind_eq_some_iff.mp h
    obtain ⟨⟨next, last⟩, hanswered, h⟩ := Option.bind_eq_some_iff.mp h
    obtain rfl := Option.some.inj h
    obtain ⟨htracks, halone⟩ := hs.underway n job hjob (answered_underway hanswered)
    obtain ⟨hkey, hsettled⟩ := htracks.row hs.key hanswered
    refine hs.set hjob halone (answered_pending hanswered).2 hkey hsettled ?_
    cases answer with
    | verdict result => exact htracks.verdict hanswered
    | done => exact htracks.done hs.key (horderly job hjob) hanswered
    | error message =>
      obtain ⟨hmoved, huncaught⟩ := horderly job hjob
      exact htracks.failed hmoved huncaught hanswered

end ScanState

open ScanState Sample

theorem attempts_agree {es : List ScanEvent} (hs : s.Uploaded)
    (h : Run (Guarded (Enabled (step copiesOntoItself)) Orderly) s es t) : t.Agrees :=
  (h.invariant (P := Tracked) (fun _ _ _ ha he => tracked_step ha he.2 he.1) hs.tracked).agrees

instance (s : ScanState) : (e : ScanEvent) → Decidable (s.Orderly e)
  | .advance n (.error _) _ => inferInstanceAs (Decidable (∀ job ∈ s.jobs[n]?, job.moved = false ∧ job.uncaught = false))
  | .advance _ (.verdict _) _ => .isTrue trivial
  | .advance n .done _ => inferInstanceAs (Decidable (∀ job ∈ s.jobs[n]?, job.quarantining = true →
      s.document.fileStorageKey ≠ s.document.quarantineKey))
  | .putObject => .isTrue trivial
  | .confirmUpload _ => .isTrue trivial
  | .addScanJob _ => .isTrue trivial
  | .start _ _ => inferInstanceAs (Decidable (∀ job ∈ s.jobs, job.betweenAttempts = true))

namespace Sample

def stored : ScanState := { uploaded with objects := fun key => key == .documents 1 5 }

def fails (job : ℕ) : ScanEvent := .advance job (.error "failed") 60

def ends (job : ℕ) : ScanEvent := .advance job .done 60

def orderly : List ScanEvent :=
  confirmedTwice ++
    [.start 0 true, fails 0, .start 0 true, verdict 0 .infected, ends 0, ends 0, fails 0, .start 0 true,
      verdict 0 .infected] ++ List.replicate 5 (ends 0) ++ .start 1 false :: List.replicate 3 (ends 1)

/-- The transaction is lost after the move to quarantine, and the two attempts that are left find no object. -/
def failsAfterMove : List ScanEvent :=
  [.confirmUpload 3, .addScanJob 0, .start 0 true, verdict 0 .infected, ends 0, ends 0, ends 0, fails 0, .start 0 true,
    fails 0, .start 0 true, fails 0, ends 0, fails 0]

lemma stored_ok : stored.Uploaded := ⟨rfl, rfl, rfl, nofun⟩

end Sample

theorem attempts_agree_sample : ∃ t, Run (Enabled (step false)) stored orderly t ∧
    t.jobs.map ScanJob.phase = [.completed, .completed] ∧ t.Agrees := by
  have hend : (orderly.foldlM (checked (step false) Orderly) stored).any
      (fun t => decide (t.jobs.map ScanJob.phase = [.completed, .completed])) = true := by decide
  obtain ⟨t, ht, hphases⟩ := (Option.any_eq_true _ _).mp hend
  have hrun := run_checked ht
  exact ⟨t, hrun.unguarded, of_decide_eq_true hphases, attempts_agree stored_ok hrun⟩

theorem document_lost : ∃ t, stored.Uploaded ∧ Run (Enabled (step false)) stored failsAfterMove t ∧
    (∀ job ∈ t.jobs, job.ended = true) ∧ t.objects t.document.fileStorageKey = false ∧
    t.document.scanStatus = .pending := by
  have hend : (failsAfterMove.foldlM (step false) stored).any (fun t => (∀ job ∈ t.jobs, job.ended = true) ∧
      t.objects t.document.fileStorageKey = false ∧ t.document.scanStatus = .pending) = true := by decide
  obtain ⟨t, ht, hall⟩ := (Option.any_eq_true _ _).mp hend
  exact ⟨t, stored_ok, (run_enabled_iff _ _ _ _).mpr ht, of_decide_eq_true hall⟩

end Truckmaster.Documents
