import Truckmaster.RateConfirmationExtraction.ExtractionJobs

namespace Truckmaster.RateConfirmationExtraction

open Common Documents ExpiringKeys Fallible JobQueues Runs RateConfirmationExtractionJobStore

namespace ExtractionState

def OwnKey (organizationId documentId : Uuid) (key : StorageKey) : Prop :=
  key = .documents organizationId documentId ∨ key = .quarantine organizationId documentId

/-- The job reads a document that was uploaded for the extraction and that a scan has found consumable. -/
structure Cleared (s : ExtractionState) (job : ExtractionJob) : Prop where
  passed : s.passed job.documentId = true
  uploaded : ∃ d, s.documents job.documentId = some d ∧ d.organizationId = job.organizationId ∧ d.entityId = job.extractionId
  own : OwnKey job.organizationId job.documentId job.storageKey

structure Sound (extract : Extractor) (s : ExtractionState) (organizationId extractionId : Uuid) (r : ExtractionJobRecord) :
    Prop where
  organization : r.organizationId = organizationId
  document : ∃ d, s.documents r.documentId = some d ∧ d.organizationId = organizationId ∧ d.entityId = extractionId
  error : r.extractionError.isSome = true ↔ r.extractionStatus = .failed
  complete : r.extractionStatus = .complete → r.data.isSome = true
  bare : r.extractionStatus = .notStarted ∨ r.extractionStatus = .failed → r.data = none
  begun : r.extractionStatus ≠ .notStarted →
    ∃ job, s.Cleared job ∧ job.organizationId = organizationId ∧ job.extractionId = extractionId
  read : ∀ data, r.data = some data → ∃ job call, s.Cleared job ∧ job.organizationId = organizationId ∧
    job.extractionId = extractionId ∧ extract job call = .ok (.data data)

structure Grows (s s' : ExtractionState) : Prop where
  documents : ∀ id d, s.documents id = some d → ∃ d', s'.documents id = some d' ∧ d'.organizationId = d.organizationId ∧
    d'.entityId = d.entityId
  passed : ∀ id, s.passed id = true → s'.passed id = true

variable {extract : Extractor} {s s' : ExtractionState} {organizationId extractionId : Uuid} {job : ExtractionJob}
  {r : ExtractionJobRecord} {n : ℕ} {a : Attempt} {mark : Mark}

lemma Grows.of_eq (hdocuments : s'.documents = s.documents) (hpassed : s'.passed = s.passed) : Grows s s' :=
  ⟨fun _ d hd => ⟨d, hdocuments ▸ hd, rfl, rfl⟩, fun _ hid => hpassed ▸ hid⟩

lemma Cleared.mono (h : s.Cleared job) (hgrows : Grows s s') : s'.Cleared job := by
  obtain ⟨d, hd, horg, hext⟩ := h.uploaded
  obtain ⟨d', hd', horg', hext'⟩ := hgrows.documents _ d hd
  exact ⟨hgrows.passed _ h.passed, ⟨d', hd', horg'.trans horg, hext'.trans hext⟩, h.own⟩

lemma Sound.mono (h : Sound extract s organizationId extractionId r) (hgrows : Grows s s') :
    Sound extract s' organizationId extractionId r where
  organization := h.organization
  document := by
    obtain ⟨d, hd, horg, hext⟩ := h.document
    obtain ⟨d', hd', horg', hext'⟩ := hgrows.documents _ d hd
    exact ⟨d', hd', horg'.trans horg, hext'.trans hext⟩
  error := h.error
  complete := h.complete
  bare := h.bare
  begun hstatus := by
    obtain ⟨job, hjob, hkey⟩ := h.begun hstatus
    exact ⟨job, hjob.mono hgrows, hkey⟩
  read data hdata := by
    obtain ⟨job, call, hjob, hread⟩ := h.read data hdata
    exact ⟨job, call, hjob.mono hgrows, hread⟩

def Mark.Reads (extract : Extractor) (job : ExtractionJob) : Mark → Prop
  | .complete data => ∃ call, extract job call = .ok (.data data)
  | _ => True

lemma Sound.apply (h : Sound extract s job.organizationId job.extractionId r) (hjob : s.Cleared job)
    (hmark : Mark.Reads extract job mark) : Sound extract s job.organizationId job.extractionId (mark.apply r) := by
  have hbegun : ∃ job', s.Cleared job' ∧ job'.organizationId = job.organizationId ∧ job'.extractionId = job.extractionId :=
    ⟨job, hjob, rfl, rfl⟩
  cases mark with
  | inProgress =>
    exact ⟨h.organization, h.document, by simp [Mark.apply, markInProgress], by simp [Mark.apply, markInProgress],
      by simp [Mark.apply, markInProgress], fun _ => hbegun, h.read⟩
  | complete data =>
    refine ⟨h.organization, h.document, by simp [Mark.apply, markComplete], fun _ => rfl, by simp [Mark.apply, markComplete],
      fun _ => hbegun, ?_⟩
    rintro _ ⟨⟩
    obtain ⟨call, hcall⟩ := hmark
    exact ⟨job, call, hjob, rfl, rfl, hcall⟩
  | failed error =>
    exact ⟨h.organization, h.document, by simp [Mark.apply, markFailed], by simp [Mark.apply, markFailed], fun _ => rfl,
      fun _ => hbegun, by rintro _ ⟨⟩⟩

lemma Sound.reset (h : Sound extract s organizationId extractionId r)
    (hbegun : ∃ job, s.Cleared job ∧ job.organizationId = organizationId ∧ job.extractionId = extractionId) :
    Sound extract s organizationId extractionId (resetForRetry r) :=
  ⟨h.organization, h.document, by simp [resetForRetry], by simp [resetForRetry], fun _ => rfl, fun _ => hbegun,
    by rintro _ ⟨⟩⟩

def AttemptSound (extract : Extractor) (s : ExtractionState) (a : Attempt) : Prop :=
  s.Cleared a.job ∧ match a.phase with
    | .reading mark _ => Mark.Reads extract a.job mark
    | .writing mark _ existing =>
      Mark.Reads extract a.job mark ∧ Sound extract s a.job.organizationId a.job.extractionId existing
    | _ => True

def Planned (s : ExtractionState) (r : RetryRequest) (job : ExtractionJob) : Prop :=
  s.Cleared job ∧ job.organizationId = r.organizationId ∧ job.extractionId = r.extractionId

def RetrySound (extract : Extractor) (s : ExtractionState) (r : RetryRequest) : Prop :=
  match r.phase with
  | .found record => Sound extract s r.organizationId r.extractionId record
  | .reading job => s.Planned r job
  | .writing job existing => s.Planned r job ∧ Sound extract s r.organizationId r.extractionId existing
  | .adding job => s.Planned r job

structure Kept (passed : Uuid → Bool) (id : Uuid) (d : Document) : Prop where
  key : d.id = id
  own : OwnKey d.organizationId id d.fileStorageKey
  passed : isDocumentConsumable d.scanStatus = true → passed id = true

structure Coherent (extract : Extractor) (s : ExtractionState) : Prop where
  fresh : ∀ id d, s.documents id = some d → id < s.freshUuid
  documents : ∀ id d, s.documents id = some d → Kept s.passed id d
  records : ∀ organizationId extractionId e, s.records (organizationId, extractionId) = some e →
    Sound extract s organizationId extractionId e.value
  jobs : ∀ k j, s.queue k = some j → s.Cleared j.data
  attempts : ∀ n a, s.attempts n = some a → AttemptSound extract s a
  retries : ∀ n r, s.retries n = some r → RetrySound extract s r

lemma Kept.mono {passed passed' : Uuid → Bool} {id : Uuid} {d : Document} (h : Kept passed id d)
    (hpassed : ∀ id, passed id = true → passed' id = true) : Kept passed' id d :=
  ⟨h.key, h.own, fun hc => hpassed id (h.passed hc)⟩

lemma AttemptSound.mono (h : AttemptSound extract s a) (hgrows : Grows s s') : AttemptSound extract s' a := by
  obtain ⟨hjob, hphase⟩ := h
  refine ⟨hjob.mono hgrows, ?_⟩
  cases ha : a.phase with
  | reading mark caught => simpa [ha] using hphase
  | writing mark caught existing =>
    rw [ha] at hphase
    exact ⟨hphase.1, hphase.2.mono hgrows⟩
  | extracting => trivial
  | returning => trivial

lemma RetrySound.mono {r : RetryRequest} (h : RetrySound extract s r) (hgrows : Grows s s') : RetrySound extract s' r := by
  unfold RetrySound at h ⊢
  cases hr : r.phase with
  | found record =>
    rw [hr] at h
    exact h.mono hgrows
  | reading job =>
    rw [hr] at h
    exact ⟨h.1.mono hgrows, h.2⟩
  | writing job existing =>
    rw [hr] at h
    exact ⟨⟨h.1.1.mono hgrows, h.1.2⟩, h.2.mono hgrows⟩
  | adding job =>
    rw [hr] at h
    exact ⟨h.1.mono hgrows, h.2⟩

section Steps

lemma get_sound (h : Coherent extract s) (hget : RateConfirmationExtractionJobStore.get s.records s.now organizationId extractionId = some r) :
    Sound extract s organizationId extractionId r := by
  rw [RateConfirmationExtractionJobStore.get, Option.filter_eq_some_iff] at hget
  obtain ⟨e, hentry, _, rfl⟩ := Keys.get_eq_some.mp hget.1
  exact h.records _ _ e hentry

lemma Coherent.step (h : Coherent extract s) (hgrows : Grows s s')
    (hfresh : ∀ id d, s'.documents id = some d → id < s'.freshUuid)
    (hdocuments : ∀ id d, s'.documents id = some d → Kept s'.passed id d)
    (hrecords : ∀ o x e, s'.records (o, x) = some e → s.records (o, x) = some e ∨ Sound extract s' o x e.value)
    (hjobs : ∀ k j, s'.queue k = some j → (∃ j', s.queue k = some j' ∧ j'.data = j.data) ∨ s'.Cleared j.data)
    (hattempts : ∀ n a, s'.attempts n = some a → s.attempts n = some a ∨ AttemptSound extract s' a)
    (hretries : ∀ n r, s'.retries n = some r → s.retries n = some r ∨ RetrySound extract s' r) : Coherent extract s' := by
  refine ⟨hfresh, hdocuments, fun o x e he => ?_, fun k j hj => ?_, fun n a ha => ?_, fun n r hr => ?_⟩
  · exact (hrecords o x e he).elim (fun hold => (h.records o x e hold).mono hgrows) id
  · rcases hjobs k j hj with ⟨j', hold, hdata⟩ | hnew
    · exact hdata ▸ (h.jobs k j' hold).mono hgrows
    · exact hnew
  · exact (hattempts n a ha).elim (fun hold => (h.attempts n a hold).mono hgrows) id
  · exact (hretries n r hr).elim (fun hold => (h.retries n r hold).mono hgrows) id

lemma Coherent.same (h : Coherent extract s) (hdocuments : s'.documents = s.documents) (hpassed : s'.passed = s.passed)
    (huuid : s'.freshUuid = s.freshUuid)
    (hrecords : ∀ o x e, s'.records (o, x) = some e → s.records (o, x) = some e ∨ Sound extract s' o x e.value)
    (hjobs : ∀ k j, s'.queue k = some j → (∃ j', s.queue k = some j' ∧ j'.data = j.data) ∨ s'.Cleared j.data)
    (hattempts : ∀ n a, s'.attempts n = some a → s.attempts n = some a ∨ AttemptSound extract s' a)
    (hretries : ∀ n r, s'.retries n = some r → s.retries n = some r ∨ RetrySound extract s' r) : Coherent extract s' := by
  refine h.step (.of_eq hdocuments hpassed) ?_ ?_ hrecords hjobs hattempts hretries
  · rw [hdocuments, huuid]
    exact h.fresh
  · rw [hdocuments, hpassed]
    exact h.documents

lemma update_some {β : Type} {f : ℕ → Option β} {v : Option β} {m n : ℕ} {b : β} (h : Function.update f n v m = some b) :
    f m = some b ∨ v = some b := by
  by_cases hm : m = n
  · subst hm
    rw [Function.update_self] at h
    exact .inr h
  · rw [Function.update_of_ne hm] at h
    exact .inl h

lemma old_job {k : ℕ} {j : Job ExtractionJob} (h : s.queue k = some j) : ∃ j', s.queue k = some j' ∧ j'.data = j.data :=
  ⟨j, h, rfl⟩

lemma Coherent.setAttempt (h : Coherent extract s) {attempt : Option Attempt}
    (ha : ∀ a, attempt = some a → AttemptSound extract s a) : Coherent extract (s.setAttempt n attempt) :=
  h.same rfl rfl rfl (fun _ _ _ he => .inl he) (fun _ _ hj => .inl (old_job hj))
    (fun _ a hb => (update_some hb).imp_right (fun hnew => (ha a hnew).mono (.of_eq rfl rfl))) (fun _ _ hr => .inl hr)

lemma Coherent.setRetry (h : Coherent extract s) {request : Option RetryRequest}
    (hr : ∀ r, request = some r → RetrySound extract s r) : Coherent extract (s.setRetry n request) :=
  h.same rfl rfl rfl (fun _ _ _ he => .inl he) (fun _ _ hj => .inl (old_job hj)) (fun _ _ ha => .inl ha)
    (fun _ r hnew => (update_some hnew).imp_right (fun hnew => (hr r hnew).mono (.of_eq rfl rfl)))

lemma moveJob_cases (s : ExtractionState) (k : ℕ) (m : Move) :
    s.moveJob k m = s ∨ ∃ j job, s.queue k = some j ∧ j.move maxAttempts m = some job ∧
      s.moveJob k m = { s with queue := Function.update s.queue k job, lock := Function.update s.lock k none } := by
  unfold moveJob
  cases hmove : (s.queue k).bind (fun j => j.move maxAttempts m) with
  | none => exact .inl rfl
  | some job =>
    obtain ⟨j, hj, hjob⟩ := Option.bind_eq_some_iff.mp hmove
    exact .inr ⟨j, job, hj, hjob, rfl⟩

lemma move_data {j j' : Job ExtractionJob} {m : Move} (h : j.move maxAttempts m = some (some j')) : j'.data = j.data := by
  obtain ⟨_, hsame, hdata, _⟩ | ⟨_, hsame, hdata, _⟩ | ⟨hnone, _⟩ := Job.move_cases h
  · exact Option.some.inj hsame ▸ hdata
  · exact Option.some.inj hsame ▸ hdata
  · cases hnone

lemma Coherent.moveJob (h : Coherent extract s) (k : ℕ) (m : Move) : Coherent extract (s.moveJob k m) := by
  obtain heq | ⟨j, job, hj, hmove, heq⟩ := s.moveJob_cases k m
  · rw [heq]
    exact h
  · rw [heq]
    refine h.same rfl rfl rfl (fun _ _ _ he => .inl he) (fun k' j' hj' => .inl ?_) (fun _ _ ha => .inl ha) (fun _ _ hr => .inl hr)
    by_cases hk : k' = k
    · subst hk
      dsimp only at hj'
      rw [Function.update_self] at hj'
      subst hj'
      exact ⟨j, hj, (move_data hmove).symm⟩
    · exact old_job ((Function.update_of_ne hk _ _).symm.trans hj')

lemma Coherent.leave (h : Coherent extract s) (n : ℕ) (a : Attempt) (m : Move) : Coherent extract (s.leave n a m) := by
  have hleft : Coherent extract (s.setAttempt n none) := h.setAttempt (by rintro _ ⟨⟩)
  unfold ExtractionState.leave
  dsimp only
  split
  next => exact hleft.moveJob _ _
  next => exact hleft

lemma Coherent.addJob (h : Coherent extract s) (hjob : s.Cleared job) : Coherent extract (s.addJob job) := by
  refine h.same rfl rfl rfl (fun _ _ _ he => .inl he) (fun k j hj => ?_) (fun _ _ ha => .inl ha) (fun _ _ hr => .inl hr)
  refine (update_some hj).imp old_job (fun hnew => ?_)
  rw [← Option.some.inj hnew]
  exact hjob.mono (.of_eq rfl rfl)

lemma Coherent.write (h : Coherent extract s) (hr : Sound extract s organizationId extractionId r) (t : Instant) :
    Coherent extract { s with records := RateConfirmationExtractionJobStore.write s.records t organizationId extractionId r } := by
  refine h.same rfl rfl rfl (fun o x e he => ?_) (fun _ _ hj => .inl (old_job hj)) (fun _ _ ha => .inl ha)
    (fun _ _ hr => .inl hr)
  by_cases hkey : (o, x) = (organizationId, extractionId)
  · obtain ⟨rfl, rfl⟩ := Prod.mk.inj hkey
    right
    have hentry : some _ = some e := (if_pos rfl).symm.trans he
    rw [← Option.some.inj hentry]
    exact hr.mono (.of_eq rfl rfl)
  · exact .inl ((if_neg hkey).symm.trans he)

lemma Coherent.catchError (h : Coherent extract s) (hjob : s.Cleared a.job) (message : String) :
    Coherent extract (s.catchError n a message) := by
  unfold ExtractionState.catchError
  split
  next =>
    refine h.setAttempt ?_
    rintro _ ⟨⟩
    exact ⟨hjob, trivial⟩
  next => exact h.leave n a .fail

lemma attempt_after (hjob : s.Cleared a.job) (mark : Mark) : AttemptSound extract s { a with phase := .after mark } := by
  refine ⟨hjob, ?_⟩
  cases mark <;> trivial

lemma Coherent.advance (h : Coherent extract s) (ha : AttemptSound extract s a) (call : ℕ) :
    Coherent extract (s.advance extract n a call) := by
  obtain ⟨hjob, hphase⟩ := ha
  unfold ExtractionState.advance
  cases hcase : a.phase with
  | reading mark caught =>
    rw [hcase] at hphase
    dsimp only
    cases hget : RateConfirmationExtractionJobStore.get s.records s.now a.job.organizationId a.job.extractionId with
    | none =>
      refine h.setAttempt ?_
      rintro _ ⟨⟩
      exact attempt_after hjob mark
    | some existing =>
      refine h.setAttempt ?_
      rintro _ ⟨⟩
      exact ⟨hjob, hphase, get_sound h hget⟩
  | writing mark caught existing =>
    rw [hcase] at hphase
    have hset : Coherent extract (s.setAttempt n (some { a with phase := .after mark })) := by
      refine h.setAttempt ?_
      rintro _ ⟨⟩
      exact attempt_after hjob mark
    exact hset.write ((hphase.2.apply hjob hphase.1).mono (.of_eq rfl rfl)) s.now
  | extracting =>
    dsimp only
    cases hread : extract a.job call with
    | error message => exact h.catchError hjob message
    | ok outcome =>
      cases outcome with
      | multiLoadDetected =>
        refine h.setAttempt ?_
        rintro _ ⟨⟩
        exact ⟨hjob, trivial⟩
      | data data =>
        refine h.setAttempt ?_
        rintro _ ⟨⟩
        exact ⟨hjob, call, hread⟩
  | returning => exact h.leave n a .complete

lemma Coherent.raise (h : Coherent extract s) (ha : AttemptSound extract s a) (message : String) :
    Coherent extract (s.raise n a message) := by
  unfold ExtractionState.raise
  cases a.phase with
  | returning => exact h
  | reading mark caught =>
    dsimp only
    split
    next => exact h.leave n a .fail
    next => exact h.catchError ha.1 message
  | writing mark caught existing =>
    dsimp only
    split
    next => exact h.leave n a .fail
    next => exact h.catchError ha.1 message
  | extracting => exact h.catchError ha.1 message

lemma Coherent.advanceRetry {request : RetryRequest} (h : Coherent extract s) (hr : RetrySound extract s request) :
    Coherent extract (s.advanceRetry n request) := by
  unfold ExtractionState.advanceRetry
  cases hcase : request.phase with
  | found record =>
    simp only [RetrySound, hcase] at hr
    dsimp only
    obtain ⟨d, hd, horg, hext⟩ := hr.document
    have hfound : (s.documents record.documentId).filter (fun d => d.organizationId == request.organizationId) = some d :=
      Option.filter_eq_some_iff.mpr ⟨hd, beq_iff_eq.mpr horg⟩
    rw [hfound]
    dsimp only
    obtain ⟨hid, hown, hpassed⟩ := h.documents _ d hd
    rw [← hid] at hd hown hpassed
    split
    next hconsumable =>
      refine h.setRetry ?_
      rintro _ ⟨⟩
      exact ⟨⟨hpassed hconsumable, ⟨d, hd, horg, hext⟩, horg ▸ hown⟩, rfl, rfl⟩
    next =>
      refine h.setRetry ?_
      rintro _ ⟨⟩
  | reading job =>
    simp only [RetrySound, hcase] at hr
    dsimp only
    cases hget : RateConfirmationExtractionJobStore.get s.records s.now request.organizationId request.extractionId with
    | none =>
      refine h.setRetry ?_
      rintro _ ⟨⟩
      exact hr
    | some existing =>
      refine h.setRetry ?_
      rintro _ ⟨⟩
      exact ⟨hr, get_sound h hget⟩
  | writing job existing =>
    simp only [RetrySound, hcase] at hr
    obtain ⟨⟨hjob, horg, hext⟩, hexisting⟩ := hr
    have hset : Coherent extract (s.setRetry n (some { request with phase := .adding job })) := by
      refine h.setRetry ?_
      rintro _ ⟨⟩
      exact ⟨hjob, horg, hext⟩
    have hreset := hexisting.reset ⟨job, hjob, horg, hext⟩
    exact hset.write (hreset.mono (.of_eq rfl rfl)) s.now
  | adding job =>
    simp only [RetrySound, hcase] at hr
    have hset : Coherent extract (s.setRetry n none) := h.setRetry (by rintro _ ⟨⟩)
    exact hset.addJob (hr.1.mono (.of_eq rfl rfl))

lemma Coherent.addDocument (h : Coherent extract s) (organizationId extractionId : Uuid) (fileName : String)
    (uploadedByUserId : Uuid) :
    Grows s (s.addDocument organizationId extractionId fileName uploadedByUserId) ∧
      Coherent extract (s.addDocument organizationId extractionId fileName uploadedByUserId) := by
  have hnew : ∀ id d, s.documents id = some d → id ≠ s.freshUuid := fun id d hd => (h.fresh id d hd).ne
  have hgrows : Grows s (s.addDocument organizationId extractionId fileName uploadedByUserId) :=
    ⟨fun id d hd => ⟨d, (Function.update_of_ne (hnew id d hd) _ _).trans hd, rfl, rfl⟩, fun _ hid => hid⟩
  refine ⟨hgrows, h.step hgrows (fun id d hd => ?_) (fun id d hd => ?_) (fun _ _ _ he => .inl he)
    (fun _ _ hj => .inl (old_job hj)) (fun _ _ ha => .inl ha) (fun _ _ hr => .inl hr)⟩
  · by_cases hid : id = s.freshUuid
    · subst hid
      exact Nat.lt_succ_self _
    · exact (h.fresh id d ((Function.update_of_ne hid _ _).symm.trans hd)).trans (Nat.lt_succ_self _)
  · by_cases hid : id = s.freshUuid
    · subst hid
      dsimp only [ExtractionState.addDocument] at hd
      rw [Function.update_self] at hd
      obtain rfl := Option.some.inj hd
      exact ⟨rfl, .inl rfl, by rintro ⟨⟩⟩
    · exact h.documents id d ((Function.update_of_ne hid _ _).symm.trans hd)

lemma Coherent.rescan (h : Coherent extract s) {d : Document} (hd : s.documents d.id = some d) (d' : Document)
    (hid : d'.id = d.id) (horg : d'.organizationId = d.organizationId) (hext : d'.entityId = d.entityId)
    (hown : OwnKey d'.organizationId d.id d'.fileStorageKey) (commits : Bool) (passed : Uuid → Bool)
    (hpassed : ∀ id, s.passed id = true → passed id = true)
    (hscan : isDocumentConsumable d'.scanStatus = true → passed d.id = true) :
    Grows s { s with documents := if commits then Function.update s.documents d.id (some d') else s.documents, passed } ∧
    Coherent extract
      { s with documents := if commits then Function.update s.documents d.id (some d') else s.documents, passed } := by
  cases commits with
  | false =>
    have hgrows : Grows s { s with documents := s.documents, passed } := ⟨fun _ d hd => ⟨d, hd, rfl, rfl⟩, hpassed⟩
    exact ⟨hgrows, h.step hgrows h.fresh
      (fun id d hd => (h.documents id d hd).mono hpassed) (fun _ _ _ he => .inl he)
      (fun _ _ hj => .inl (old_job hj)) (fun _ _ ha => .inl ha) (fun _ _ hr => .inl hr)⟩
  | true =>
    have hgrows : Grows s { s with documents := Function.update s.documents d.id (some d'), passed } := by
      refine ⟨fun id e he => ?_, hpassed⟩
      by_cases hsame : id = d.id
      · subst hsame
        obtain rfl := Option.some.inj (hd.symm.trans he)
        exact ⟨d', Function.update_self _ _ _, horg, hext⟩
      · exact ⟨e, (Function.update_of_ne hsame _ _).trans he, rfl, rfl⟩
    refine ⟨hgrows, h.step hgrows (fun id e he => ?_) (fun id e he => ?_) (fun _ _ _ he => .inl he)
      (fun _ _ hj => .inl (old_job hj)) (fun _ _ ha => .inl ha) (fun _ _ hr => .inl hr)⟩
    · by_cases hsame : id = d.id
      · subst hsame
        exact h.fresh _ d hd
      · exact h.fresh id e ((Function.update_of_ne hsame _ _).symm.trans he)
    · by_cases hsame : id = d.id
      · subst hsame
        dsimp only at he
        rw [if_pos rfl, Function.update_self] at he
        obtain rfl := Option.some.inj he
        exact ⟨hid, hown, hscan⟩
      · exact (h.documents id e ((Function.update_of_ne hsame _ _).symm.trans he)).mono hpassed

lemma Coherent.scanned (h : Coherent extract s) {d : Document} (hd : s.documents d.id = some d) (status : MalwareScanStatus)
    (quarantined commits : Bool) : Coherent extract (s.scanned d status quarantined commits) := by
  unfold ExtractionState.scanned
  dsimp only
  generalize hkey : (if status = .clean ∧ quarantined = false then d.documentKey else d.quarantineKey) = key
  have hown : OwnKey d.organizationId d.id key := by
    rw [← hkey]
    split
    · exact .inl rfl
    · exact .inr rfl
  by_cases hc : isDocumentConsumable status.documentStatus = true
  · obtain ⟨hgrows, hcoherent⟩ := h.rescan hd { d with scanStatus := status.documentStatus, fileStorageKey := key } rfl
      rfl rfl hown commits (Function.update s.passed d.id true) (fun id hid => by
        by_cases hsame : id = d.id
        · rw [hsame, Function.update_self]
        · rw [Function.update_of_ne hsame, hid]) (fun _ => Function.update_self _ _ _)
    have hcleared : Cleared { s with
        documents := if commits then Function.update s.documents d.id
          (some { d with scanStatus := status.documentStatus, fileStorageKey := key }) else s.documents
        passed := Function.update s.passed d.id true } ⟨d.entityId, d.id, d.organizationId, key⟩ := by
      obtain ⟨d', hd', horg, hext⟩ := hgrows.documents _ d hd
      exact ⟨Function.update_self _ _ _, ⟨d', hd', horg, hext⟩, hown⟩
    have hadded := hcoherent.addJob hcleared
    rw [if_pos hc]
    cases commits <;> exact hadded
  · obtain ⟨_, hcoherent⟩ := h.rescan hd { d with scanStatus := status.documentStatus, fileStorageKey := key } rfl
      rfl rfl hown commits s.passed (fun _ hid => hid) (fun h => absurd h hc)
    rw [if_neg hc]
    cases commits <;> exact hcoherent

lemma Coherent.initiate (h : Coherent extract s) (organizationId : Uuid) (fileName : String) (uploadedByUserId : Uuid) :
    Coherent extract (s.next extract (.initiate organizationId fileName uploadedByUserId)) := by
  have hdrawn : Coherent extract { s with freshUuid := s.freshUuid + 1 } :=
    h.step (.of_eq rfl rfl) (fun id d hd => (h.fresh id d hd).trans (Nat.lt_succ_self _)) h.documents (fun _ _ _ he => .inl he)
      (fun _ _ hj => .inl (old_job hj)) (fun _ _ ha => .inl ha) (fun _ _ hr => .inl hr)
  obtain ⟨_, hadded⟩ := hdrawn.addDocument organizationId s.freshUuid fileName uploadedByUserId
  refine hadded.write ?_ s.now
  refine ⟨rfl, ⟨_, Function.update_self _ _ _, rfl, rfl⟩, by simp [created], by simp [created], fun _ => rfl,
    fun hstatus => absurd rfl hstatus, by rintro _ ⟨⟩⟩

lemma Coherent.start (h : Coherent extract s) {k : ℕ} {j : Job ExtractionJob} (hj : s.queue k = some j) :
    Coherent extract { s with
      queue := Function.update s.queue k (some { j with status := .active })
      lock := Function.update s.lock k (some s.freshAttempt)
      attempts := Function.update s.attempts s.freshAttempt (some ⟨k, j.data, j.attemptsMade, .reading .inProgress false⟩)
      freshAttempt := s.freshAttempt + 1 } := by
  refine h.same rfl rfl rfl (fun _ _ _ he => .inl he) (fun k' j' hj' => .inl ?_) (fun n a ha => ?_) (fun _ _ hr => .inl hr)
  · by_cases hk : k' = k
    · subst hk
      dsimp only at hj'
      rw [Function.update_self] at hj'
      exact ⟨j, hj, by rw [← Option.some.inj hj']⟩
    · exact old_job ((Function.update_of_ne hk _ _).symm.trans hj')
  · refine (update_some ha).imp_right (fun hnew => ?_)
    rw [← Option.some.inj hnew]
    exact ⟨(h.jobs k j hj).mono (.of_eq rfl rfl), trivial⟩

lemma Coherent.next (h : Coherent extract s) (e : ExtractionEvent) : Coherent extract (s.next extract e) := by
  unfold ExtractionState.next
  cases e with
  | tick now =>
    exact h.same rfl rfl rfl (fun _ _ _ he => .inl he) (fun _ _ hj => .inl (old_job hj)) (fun _ _ ha => .inl ha)
      (fun _ _ hr => .inl hr)
  | initiate organizationId fileName uploadedByUserId => exact h.initiate organizationId fileName uploadedByUserId
  | upload organizationId extractionId fileName uploadedByUserId => exact (h.addDocument _ _ _ _).2
  | scanned documentId status quarantined commits =>
    dsimp only
    cases hd : s.documents documentId with
    | none => exact h
    | some d => exact h.scanned ((h.documents documentId d hd).key.symm ▸ hd) status quarantined commits
  | start k =>
    dsimp only
    cases hj : s.queue k with
    | none => exact h
    | some j =>
      dsimp only
      split
      next => exact h.start hj
      next => exact h
  | advance n call =>
    dsimp only
    cases ha : s.attempts n with
    | none => exact h
    | some a => exact h.advance (h.attempts n a ha) call
  | raise n message =>
    dsimp only
    cases ha : s.attempts n with
    | none => exact h
    | some a => exact h.raise (h.attempts n a ha) message
  | die n => exact h.setAttempt (by rintro _ ⟨⟩)
  | stall k => exact h.moveJob k (.stall false)
  | wake k => exact h.moveJob k .wake
  | evict k => exact h.moveJob k .evict
  | retry n organizationId extractionId =>
    dsimp only
    split
    next record hfree hget =>
      refine h.setRetry ?_
      rintro _ ⟨⟩
      exact get_sound h hget
    next => exact h
  | advanceRetry n =>
    dsimp only
    cases hr : s.retries n with
    | none => exact h
    | some r => exact h.advanceRetry (h.retries n r hr)
  | cutRetry n => exact h.setRetry (by rintro _ ⟨⟩)

end Steps

def initial (now : Instant) : ExtractionState := { now }

lemma initial_coherent (extract : Extractor) (now : Instant) : Coherent extract (initial now) :=
  ⟨by rintro id d ⟨⟩, by rintro id d ⟨⟩, by rintro o x e ⟨⟩, by rintro k j ⟨⟩, by rintro n a ⟨⟩, by rintro n r ⟨⟩⟩

def after (extract : Extractor) (now : Instant) (es : List ExtractionEvent) : ExtractionState :=
  es.foldl (ExtractionState.next extract) (initial now)

lemma after_coherent (extract : Extractor) (now : Instant) (es : List ExtractionEvent) :
    Coherent extract (after extract now es) :=
  (run_total _ _ es).invariant
    (fun s e t (hs : Coherent extract s) (he : s.next extract e = t) => he ▸ hs.next e) (initial_coherent extract now)

def Worked (s s' : ExtractionState) : Prop :=
  ∃ records queue lock attempts freshAttempt, s' = { s with records, queue, lock, attempts, freshAttempt }

lemma Worked.refl (s : ExtractionState) : Worked s s := ⟨_, _, _, _, _, rfl⟩

lemma Worked.trans {s'' : ExtractionState} (h : Worked s s') (h' : Worked s' s'') : Worked s s'' := by
  obtain ⟨_, _, _, _, _, rfl⟩ := h
  obtain ⟨_, _, _, _, _, rfl⟩ := h'
  exact ⟨_, _, _, _, _, rfl⟩

lemma worked_setAttempt (s : ExtractionState) (n : ℕ) (a : Option Attempt) : Worked s (s.setAttempt n a) :=
  ⟨_, _, _, _, _, rfl⟩

lemma worked_moveJob (s : ExtractionState) (k : ℕ) (m : Move) : Worked s (s.moveJob k m) := by
  obtain heq | ⟨_, _, _, _, heq⟩ := s.moveJob_cases k m
  · rw [heq]
    exact .refl s
  · exact ⟨_, _, _, _, _, heq⟩

lemma worked_leave (s : ExtractionState) (n : ℕ) (a : Attempt) (m : Move) : Worked s (s.leave n a m) := by
  unfold ExtractionState.leave
  dsimp only
  split
  next => exact (worked_setAttempt s n none).trans (worked_moveJob ..)
  next => exact worked_setAttempt s n none

lemma worked_catchError (s : ExtractionState) (n : ℕ) (a : Attempt) (message : String) :
    Worked s (s.catchError n a message) := by
  unfold ExtractionState.catchError
  split
  next => exact worked_setAttempt s n _
  next => exact worked_leave s n a .fail

lemma worked_advance (s : ExtractionState) (n : ℕ) (a : Attempt) (call : ℕ) : Worked s (s.advance extract n a call) := by
  unfold ExtractionState.advance
  cases a.phase with
  | reading mark caught =>
    dsimp only
    split
    next => exact worked_setAttempt s n _
    next => exact worked_setAttempt s n _
  | writing mark caught existing => exact ⟨_, _, _, _, _, rfl⟩
  | extracting =>
    dsimp only
    split
    next => exact worked_catchError s n a _
    next => exact worked_setAttempt s n _
    next => exact worked_setAttempt s n _
  | returning => exact worked_leave s n a .complete

lemma worked_raise (s : ExtractionState) (n : ℕ) (a : Attempt) (message : String) : Worked s (s.raise n a message) := by
  unfold ExtractionState.raise
  split
  next => exact .refl s
  next =>
    split
    next => exact worked_leave s n a .fail
    next => exact worked_catchError s n a message

end ExtractionState

def ExtractionEvent.ofWorker : ExtractionEvent → Bool
  | .start _ | .advance .. | .raise .. | .die _ | .stall _ | .wake _ | .evict _ => true
  | _ => false

namespace ExtractionState

variable {extract : Extractor} {s : ExtractionState}

lemma worked_next (extract : Extractor) (s : ExtractionState) {e : ExtractionEvent} (he : e.ofWorker = true) :
    Worked s (s.next extract e) := by
  unfold ExtractionState.next
  cases e with
  | start k =>
    dsimp only
    split
    next => exact .refl s
    next =>
      split
      next => exact ⟨_, _, _, _, _, rfl⟩
      next => exact .refl s
  | advance n call =>
    dsimp only
    split
    next => exact .refl s
    next => exact worked_advance ..
  | raise n message =>
    dsimp only
    split
    next => exact .refl s
    next => exact worked_raise ..
  | die n => exact worked_setAttempt s n none
  | stall k => exact worked_moveJob ..
  | wake k => exact worked_moveJob ..
  | evict k => exact worked_moveJob ..
  | _ => cases he

lemma advanceRetry_passed (n : ℕ) (r : RetryRequest) : (s.advanceRetry n r).passed = s.passed := by
  unfold ExtractionState.advanceRetry
  cases r.phase with
  | found record =>
    dsimp only
    split
    next => rfl
    next => split <;> rfl
  | reading job =>
    dsimp only
    split <;> rfl
  | writing job existing => rfl
  | adding job => rfl

lemma next_passed (h : Coherent extract s) (e : ExtractionEvent) {id : Uuid} (hid : (s.next extract e).passed id = true) :
    s.passed id = true ∨ ∃ status quarantined commits, e = .scanned id status quarantined commits ∧
      isDocumentConsumable status.documentStatus = true := by
  by_cases hworker : e.ofWorker = true
  · obtain ⟨_, _, _, _, _, heq⟩ := worked_next extract s hworker
    rw [heq] at hid
    exact .inl hid
  have hsame (hkept : (s.next extract e).passed = s.passed) : s.passed id = true := hkept ▸ hid
  cases e with
  | scanned documentId status quarantined commits =>
    cases hd : s.documents documentId with
    | none =>
      simp only [ExtractionState.next, hd] at hid
      exact .inl hid
    | some d =>
      have hdid := (h.documents documentId d hd).key
      simp only [ExtractionState.next, hd, ExtractionState.scanned] at hid
      split at hid
      next hc =>
        by_cases hdoc : id = d.id
        · exact .inr ⟨status, quarantined, commits, by rw [hdoc, hdid], hc⟩
        · left
          dsimp only [ExtractionState.addJob] at hid
          rwa [Function.update_of_ne hdoc] at hid
      next hc =>
        left
        cases commits <;> exact hid
  | advanceRetry n =>
    refine .inl (hsame ?_)
    unfold ExtractionState.next
    dsimp only
    split
    next => rfl
    next => exact advanceRetry_passed ..
  | retry n organizationId extractionId =>
    refine .inl (hsame ?_)
    unfold ExtractionState.next
    dsimp only
    split <;> rfl
  | cutRetry n => exact .inl hid
  | tick now => exact .inl hid
  | upload organizationId extractionId fileName uploadedByUserId => exact .inl hid
  | initiate organizationId fileName uploadedByUserId => exact .inl hid
  | _ => exact absurd rfl hworker

def Passed (es : List ExtractionEvent) (id : Uuid) : Prop :=
  ∃ status quarantined commits, .scanned id status quarantined commits ∈ es ∧
    isDocumentConsumable status.documentStatus = true

lemma passed_in_run (es : List ExtractionEvent) {now : Instant} {id : Uuid}
    (h : (after extract now es).passed id = true) : Passed es id := by
  induction es using List.reverseRecOn with
  | nil => cases h
  | append_singleton es e ih =>
    have hnext : after extract now (es ++ [e]) = (after extract now es).next extract e := by
      simp only [after, List.foldl_append, List.foldl_cons, List.foldl_nil]
    rw [hnext] at h
    rcases next_passed (after_coherent extract now es) e h with hold | ⟨status, quarantined, commits, rfl, hc⟩
    · obtain ⟨status, quarantined, commits, hmem, hc⟩ := ih hold
      exact ⟨status, quarantined, commits, List.mem_append_left _ hmem, hc⟩
    · exact ⟨status, quarantined, commits, List.mem_append_right _ (List.mem_singleton.mpr rfl), hc⟩

end ExtractionState

open ExtractionState

/-- At every moment, whatever the uploads, scans, retries and attempts have done to one another: the status of an
extraction names a failure just where it has failed, has data where it is complete and none where it has not begun or
has failed; it has begun only once a document that the tenant uploaded for it has passed a scan, and its data is what the
extractor read from such a document, under one of the two keys of that document. -/
theorem extraction_status_sound (extract : Extractor) (now : Instant) (es : List ExtractionEvent)
    {organizationId extractionId : Uuid} {status : ExtractionStatusResponse}
    (hstatus : RateConfirmationExtractionService.getStatus (after extract now es) organizationId extractionId = .ok status) :
    (status.extractionError.isSome = true ↔ status.extractionStatus = .failed) ∧
    (status.extractionStatus = .complete → status.data.isSome = true) ∧
    (status.extractionStatus = .notStarted ∨ status.extractionStatus = .failed → status.data = none) ∧
    (status.extractionStatus ≠ .notStarted → ∃ id d, (after extract now es).documents id = some d ∧
      d.organizationId = organizationId ∧ d.entityId = extractionId ∧ Passed es id) ∧
    ∀ data, status.data = some data → ∃ job call d, extract job call = .ok (.data data) ∧
      job.organizationId = organizationId ∧ job.extractionId = extractionId ∧
      (after extract now es).documents job.documentId = some d ∧ d.organizationId = organizationId ∧
      d.entityId = extractionId ∧ Passed es job.documentId ∧ OwnKey organizationId job.documentId job.storageKey := by
  simp only [RateConfirmationExtractionService.getStatus, bind_eq_ok, require_eq_ok, pure_eq_ok] at hstatus
  obtain ⟨record, hget, document, _, rfl⟩ := hstatus
  have hsound := get_sound (after_coherent extract now es) hget
  refine ⟨hsound.error, hsound.complete, hsound.bare, fun hbegun => ?_, fun data hdata => ?_⟩
  · obtain ⟨job, ⟨hpassed, ⟨d, hd, horg, hext⟩, _⟩, hkey, hkey'⟩ := hsound.begun hbegun
    exact ⟨job.documentId, d, hd, horg.trans hkey, hext.trans hkey', passed_in_run es hpassed⟩
  · obtain ⟨job, call, ⟨hpassed, ⟨d, hd, horg, hext⟩, hown⟩, hkey, hkey', hread⟩ := hsound.read data hdata
    exact ⟨job, call, d, hread, hkey, hkey', hd, horg.trans hkey, hext.trans hkey', passed_in_run es hpassed, hkey ▸ hown⟩

namespace ExtractionSample

def read : ExtractedRateConfirmationData := ⟨none, none, some "1500.00", none, none, none, none, [], [], []⟩

def extract : Extractor := fun _ call => if call = 0 then .error "timeout" else .ok (.data read)

/-- Two attempts at one job, of which the second takes the job over from the first. -/
def uploaded : List ExtractionEvent :=
  [.initiate 7 "rate.pdf" 3, .scanned 1 .clean false true, .start 0, .advance 0 0, .advance 0 0, .stall 0, .start 0,
    .advance 1 0, .advance 1 0, .advance 1 0, .wake 0, .start 0, .advance 2 1, .advance 2 1, .advance 2 1, .advance 2 1,
    .advance 2 1, .advance 2 1]

def readOnce : ExtractionStatusResponse := ⟨0, .clean, .complete, none, some read⟩

def retried : List ExtractionEvent :=
  uploaded ++ [.advance 0 2, .retry 0 7 0, .advanceRetry 0, .advanceRetry 0, .advanceRetry 0, .advance 0 2, .advance 0 2,
    .advance 0 2, .advanceRetry 0, .start 1, .advance 3 3, .advance 3 3, .advance 3 3, .advance 3 3, .advance 3 3, .advance 3 3]

end ExtractionSample

open ExtractionSample in
theorem extraction_status_sound_sample :
    RateConfirmationExtractionService.getStatus (after extract 0 uploaded) 7 0 = .ok readOnce ∧
      ∃ job call d, extract job call = .ok (.data read) ∧ job.organizationId = 7 ∧ job.extractionId = 0 ∧
        (after extract 0 uploaded).documents job.documentId = some d ∧ d.organizationId = 7 ∧ d.entityId = 0 ∧
        Passed uploaded job.documentId ∧ OwnKey 7 job.documentId job.storageKey := by
  have hstatus : RateConfirmationExtractionService.getStatus (after extract 0 uploaded) 7 0 = .ok readOnce := rfl
  exact ⟨hstatus, (extraction_status_sound extract 0 uploaded hstatus).2.2.2.2 read rfl⟩

end Truckmaster.RateConfirmationExtraction
