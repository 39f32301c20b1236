import Truckmaster.Imports.BatchSessions

/-! The points that a session on a batch can come to, and what its next statement does there. -/

namespace Truckmaster.Imports

open Common ReadCommitted Runs Tables

variable {I : Type}

namespace BatchFrame

def enqueues : BatchFrame I → Bool
  | addJob => true
  | jobAdded => true
  | _ => false

/-- The attempt has written the batch's last status and is to end its job. -/
def concludes : BatchFrame I → Bool
  | attempt _ _ job => job.phase == .processed
  | _ => false

def follows : BatchFrame I → Bool
  | addJob => true
  | jobAdded => true
  | attempt _ _ job => job.phase != .waiting
  | markFound _ _ _ _ _ _ => true
  | updateCounts _ _ _ _ _ _ => true
  | ending next lost => lost.follows || (next.follows && !next.enqueues)
  | aborting next => next.follows
  | _ => false

end BatchFrame

namespace BatchWrite

def ofBatch : BatchWrite I → Bool
  | updateBatch _ => true
  | _ => false

def ofRows : BatchWrite I → Bool
  | deleteRow _ => true
  | createRow _ _ => true
  | _ => false

def completes : BatchWrite I → Bool
  | moveJob _ (.complete _) => true
  | _ => false

end BatchWrite

def Concluding (x : Session (BatchFrame I) (BatchWrite I)) : Prop :=
  x.frame.concludes = true ∨ ∃ w ∈ x.writes, w.completes = true

def BatchFrame.Plain (i : I) : BatchFrame I → Prop
  | .deleteRows _ _ => False
  | .createMany _ _ _ => False
  | .jobAdded => False
  | .attempt token _ _ => token = i
  | .markFound token _ job _ _ _ => token = i ∧ job.phase ≠ .waiting ∧ job.phase ≠ .processed
  | .updateCounts token _ job _ _ _ => token = i ∧ job.phase = .finalizeBatch
  | .ending _ _ => False
  | .aborting _ => False
  | _ => True

inductive At (i : I) : BatchFrame I → List (BatchWrite I) → Prop
  | plain {f : BatchFrame I} (h : f.Plain i) : At i f []
  | deleting {found : List ImportBatchRow} {rows : List MappedRow} {ws : List (BatchWrite I)}
      (h : ∀ w ∈ ws, w.ofRows = true) : At i (.deleteRows found rows) ws
  | creating {n : ℕ} {left rows : List MappedRow} {ws : List (BatchWrite I)} (h : ∀ w ∈ ws, w.ofRows = true) :
      At i (.createMany n left rows) ws
  | aborted {next : BatchFrame I} {ws : List (BatchWrite I)} (h : next.Plain i) (hc : next.concludes = false)
      (he : next.enqueues = false) (hws : ∀ w ∈ ws, w.ofRows = true) : At i (.aborting next) ws
  | read {next lost : BatchFrame I} (hn : next.Plain i) (hl : lost.Plain i) (hnc : next.concludes = false)
      (hlc : lost.concludes = false) (he : next.enqueues = false) (hle : lost.enqueues = false) :
      At i (.ending next lost) []
  | mapping {totalRows : ℕ} : At i (.ending .ended .ended) [.updateBatch (.mapping totalRows)]
  | validated {ws : List (BatchWrite I)} {total valid invalid : ℕ} (h : ∀ w ∈ ws, w.ofRows = true) :
      At i (.ending .ended .ended) (ws ++ [.updateBatch (.validated total valid invalid)])
  | updated {rowId : Uuid} {acknowledge reset : Bool} : At i (.ending .ended .ended) [.updateRow rowId acknowledge reset]
  | importing : At i (.ending .addJob .ended) [.updateBatch .importing]
  | added : At i .jobAdded [.addJob]
  | taken {a : Attempt} {n : ℕ} :
      At i (.ending (.attempt i a ⟨n, .findBatch⟩) .ended) [.moveJob a.job (.take i)]
  | marked {a : Attempt} {job lost : ImportJob} {rowId : Uuid} {result : RowResult} {now : Instant}
      (h : job.phase ≠ .waiting ∧ job.phase ≠ .processed) (hl : lost.phase ≠ .waiting ∧ lost.phase ≠ .processed) :
      At i (.ending (.attempt i a job) (.attempt i a lost)) [.markRow rowId result now]
  | closed {a : Attempt} {job lost : ImportJob} {u : BatchUpdate} (h : job.phase = .processed)
      (hl : lost.phase ≠ .waiting ∧ lost.phase ≠ .processed) (hu : u.status = .complete ∨ u.status = .failed) :
      At i (.ending (.attempt i a job) (.attempt i a lost)) [.updateBatch u]
  | moved {n : ℕ} {m : JobMove I} (h : m = .complete i ∨ (∃ made, m = .fail i made) ∨ m = .stall) :
      At i (.ending .ended .ended) [.moveJob n m]

section Sessions

variable {i : I} {f f' next : BatchFrame I} {ws ws' : List (BatchWrite I)} {d : BatchStore I}

structure Moved (i : I) (d : BatchStore I) (f : BatchFrame I) (ws : List (BatchWrite I)) (f' : BatchFrame I)
    (ws' : List (BatchWrite I)) : Prop where
  point : At i f' (ws ++ ws')
  follows : f'.follows = true → f.follows = true ∨ ws = [] ∧ d.jobs ≠ []
  importing : .updateBatch .importing ∈ ws' → ws = [] ∧ (d.batch.status = .validated ∨ d.batch.status = .complete)
  enqueues : f.enqueues = true → f'.enqueues = true
  concluding : Concluding ⟨f', ws ++ ws'⟩ → Concluding ⟨f, ws⟩

lemma Moved.silent (h : At i f' ws) (hfollows : f'.follows = true → f.follows = true) (henqueues : f.enqueues = false)
    (hconcludes : f'.concludes = false) : Moved i d f ws f' [] where
  point := by rwa [List.append_nil]
  follows hf := .inl (hfollows hf)
  importing := nofun
  enqueues he := absurd (henqueues.symm.trans he) nofun
  concluding := by
    rintro (hf | ⟨w, hw, hc⟩)
    · exact absurd (hconcludes.symm.trans hf) nofun
    · exact .inr ⟨w, by rwa [List.append_nil] at hw, hc⟩

lemma Moved.single {w : BatchWrite I} (h : At i f' [w]) (hfollows : f'.follows = true → f.follows = true ∨ d.jobs ≠ [])
    (hw : w ≠ .updateBatch .importing) (henqueues : f.enqueues = false) (hconcludes : f'.concludes = false)
    (hcompletes : w.completes = true → f.concludes = true) : Moved i d f [] f' [w] where
  point := h
  follows hf := (hfollows hf).imp_right (fun hjobs => ⟨rfl, hjobs⟩)
  importing hmem := absurd (List.mem_singleton.mp hmem).symm hw
  enqueues he := absurd (henqueues.symm.trans he) nofun
  concluding := by
    rintro (hf | ⟨w', hw', hc⟩)
    · exact absurd (hconcludes.symm.trans hf) nofun
    · obtain rfl := List.mem_singleton.mp hw'
      exact .inl (hcompletes hc)

lemma commit_frame (h : f.statement = .commit next) : (∃ lost, f = .ending next lost) ∨ f = .jobAdded := by
  cases f with
  | jobAdded => exact .inr rfl
  | ending next' lost => exact .inl ⟨lost, by rw [Action.commit.inj h]⟩
  | deleteRows found rows => cases found <;> cases h
  | createMany n left rows => cases left <;> cases h
  | attempt token a job =>
    cases hphase : job.phase
    all_goals simp only [BatchFrame.statement, BatchFrame.attemptStatement, hphase, reduceCtorEq] at h
  | _ => cases h

lemma rollback_frame (h : f.statement = .rollback next) : f = .aborting next := by
  cases f with
  | aborting next' => rw [Action.rollback.inj h]
  | deleteRows found rows => cases found <;> cases h
  | createMany n left rows => cases left <;> cases h
  | attempt token a job =>
    cases hphase : job.phase
    all_goals simp only [BatchFrame.statement, BatchFrame.attemptStatement, hphase, reduceCtorEq] at h
  | _ => cases h

lemma Moved.replacing {w : BatchWrite I} (h : At i f' (ws ++ [w])) (hfollows : f'.follows = false)
    (hw : w ≠ .updateBatch .importing) (hcompletes : w.completes = false) (henqueues : f.enqueues = false)
    (hconcludes : f'.concludes = false) : Moved i d f ws f' [w] where
  point := h
  follows hf := absurd (hfollows.symm.trans hf) nofun
  importing hmem := absurd (List.mem_singleton.mp hmem).symm hw
  enqueues he := absurd (henqueues.symm.trans he) nofun
  concluding := by
    rintro (hf | ⟨w', hw', hc⟩)
    · exact absurd (hconcludes.symm.trans hf) nofun
    · rcases List.mem_append.mp hw' with hold | hnew
      · exact .inr ⟨w', hold, hc⟩
      · obtain rfl := List.mem_singleton.mp hnew
        exact absurd (hcompletes.symm.trans hc) nofun

lemma ofRows_snoc {w : BatchWrite I} (h : ∀ w ∈ ws, w.ofRows = true) (hw : w.ofRows = true) :
    ∀ w' ∈ ws ++ [w], w'.ofRows = true := by
  intro w' hmem
  rcases List.mem_append.mp hmem with hold | hnew
  · exact h w' hold
  · exact List.mem_singleton.mp hnew ▸ hw

lemma caught_phase {job : ImportJob} (h : job.phase ≠ .waiting) :
    job.caught.phase ≠ .waiting ∧ job.caught.phase ≠ .processed := by
  have hthrown : (if maxAttempts ≤ job.attemptsMade + 1 then JobPhase.markBatchFailed else .failed) ≠ .waiting ∧
      (if maxAttempts ≤ job.attemptsMade + 1 then JobPhase.markBatchFailed else .failed) ≠ .processed := by
    split_ifs <;> exact ⟨nofun, nofun⟩
  cases hphase : job.phase with
  | waiting => exact absurd hphase h
  | markRow rowId result rest =>
    cases result with
    | imported entityId =>
      simp only [ImportJob.caught, hphase]
      exact ⟨nofun, nofun⟩
    | failed message => simpa only [ImportJob.caught, hphase, ImportJob.onto_phase] using hthrown
    | skipped message => simpa only [ImportJob.caught, hphase, ImportJob.onto_phase] using hthrown
  | findBatch => simpa only [ImportJob.caught, hphase, ImportJob.onto_phase] using hthrown
  | findRows => simpa only [ImportJob.caught, hphase, ImportJob.onto_phase] using hthrown
  | resolveParent row rest => simpa only [ImportJob.caught, hphase, ImportJob.onto_phase] using hthrown
  | finalizeBatch => simpa only [ImportJob.caught, hphase, ImportJob.onto_phase] using hthrown
  | _ =>
    simp only [ImportJob.caught, hphase]
    exact ⟨nofun, nofun⟩

lemma nextRow_phase (entityType : ImportEntityType) (rows : List ImportBatchRow) :
    nextRow entityType rows ≠ .waiting ∧ nextRow entityType rows ≠ .processed := by
  cases rows with
  | nil => exact ⟨nofun, nofun⟩
  | cons row rest =>
    simp only [nextRow]
    split_ifs <;> exact ⟨nofun, nofun⟩

lemma attempt_moves {token : I} {a : Attempt} {job : ImportJob} (htoken : token = i)
    (hm : (BatchFrame.attemptStatement token a job).moves d = some (f', ws')) :
    Moved i d (.attempt token a job) [] f' ws' := by
  subst htoken
  have hread {phase : JobPhase} (hphase : job.phase ≠ .waiting) (h : phase ≠ .processed) :
      Moved token d (.attempt token a job) [] (.ending (.attempt token a (job.onto phase)) (.attempt token a job.caught)) [] := by
    refine .silent (.read rfl rfl ?_ ?_ rfl rfl) (fun _ => ?_) rfl rfl
    · simpa [BatchFrame.concludes, ImportJob.onto] using h
    · simpa [BatchFrame.concludes] using (caught_phase hphase).2
    · simpa [BatchFrame.follows] using hphase
  have hlost (hphase : job.phase ≠ .waiting) : (BatchFrame.attempt token a job.caught : BatchFrame I).concludes = false := by
    simpa [BatchFrame.concludes] using (caught_phase hphase).2
  have hfollows (hphase : job.phase ≠ .waiting) : (BatchFrame.attempt token a job : BatchFrame I).follows = true := by
    simpa [BatchFrame.follows] using hphase
  cases hphase : job.phase with
  | waiting =>
    simp only [BatchFrame.attemptStatement, hphase, Action.moves, Option.some.injEq] at hm
    split at hm
    next taken htaken =>
      split at hm
      · obtain ⟨rfl, rfl⟩ := Prod.mk.inj hm
        refine .single .taken (fun _ => .inr (fun hjobs => ?_)) (by rintro ⟨⟩) rfl rfl (by rintro ⟨⟩)
        rw [hjobs, List.getElem?_nil] at htaken
        cases htaken
      · obtain ⟨rfl, rfl⟩ := Prod.mk.inj hm
        exact .silent (.aborted trivial rfl rfl (by simp)) (by rintro ⟨⟩) rfl rfl
    next =>
      obtain ⟨rfl, rfl⟩ := Prod.mk.inj hm
      exact .silent (.aborted trivial rfl rfl (by simp)) (by rintro ⟨⟩) rfl rfl
  | findBatch =>
    simp only [BatchFrame.attemptStatement, hphase, Action.moves, Option.some.injEq] at hm
    obtain ⟨rfl, rfl⟩ := Prod.mk.inj hm
    exact hread (by simp [hphase]) (by rintro ⟨⟩)
  | findRows =>
    simp only [BatchFrame.attemptStatement, hphase, Action.moves, Option.some.injEq] at hm
    obtain ⟨rfl, rfl⟩ := Prod.mk.inj hm
    exact hread (by simp [hphase]) (nextRow_phase _ _).2
  | resolveParent row rest =>
    simp only [BatchFrame.attemptStatement, hphase, Action.moves, Option.some.injEq] at hm
    split at hm
    all_goals
      obtain ⟨rfl, rfl⟩ := Prod.mk.inj hm
      exact hread (by simp [hphase]) (by rintro ⟨⟩)
  | commitEntity row parentId rest =>
    simp only [BatchFrame.attemptStatement, hphase, Action.moves, Option.some.injEq] at hm
    split at hm
    all_goals
      obtain ⟨rfl, rfl⟩ := Prod.mk.inj hm
      exact hread (by simp [hphase]) (by rintro ⟨⟩)
  | markRow rowId result rest =>
    have hwaiting : job.phase ≠ .waiting := by simp [hphase]
    simp only [BatchFrame.attemptStatement, hphase, Action.moves, Option.some.injEq] at hm
    split at hm
    all_goals obtain ⟨rfl, rfl⟩ := Prod.mk.inj hm
    · exact .silent (.plain ⟨rfl, hwaiting, by simp [hphase]⟩) (fun _ => hfollows hwaiting) rfl rfl
    · exact .silent (.aborted rfl (hlost hwaiting) rfl (by simp)) (fun _ => hfollows hwaiting) rfl rfl
  | finalizeBatch =>
    simp only [BatchFrame.attemptStatement, hphase, Action.moves, Option.some.injEq] at hm
    obtain ⟨rfl, rfl⟩ := Prod.mk.inj hm
    exact .silent (.plain ⟨rfl, hphase⟩) (fun _ => hfollows (by simp [hphase])) rfl rfl
  | processed =>
    simp only [BatchFrame.attemptStatement, hphase, Action.moves, Option.some.injEq] at hm
    obtain ⟨rfl, rfl⟩ := Prod.mk.inj hm
    exact .single (.moved (.inl rfl)) (by rintro ⟨⟩) (by rintro ⟨⟩) rfl rfl (fun _ => by simp [BatchFrame.concludes, hphase])
  | markBatchFailed =>
    have hwaiting : job.phase ≠ .waiting := by simp [hphase]
    simp only [BatchFrame.attemptStatement, hphase, Action.moves, Option.some.injEq] at hm
    obtain ⟨rfl, rfl⟩ := Prod.mk.inj hm
    exact .single (.closed rfl (caught_phase hwaiting) (.inr rfl)) (fun _ => .inl (hfollows hwaiting)) (by rintro ⟨⟩) rfl rfl (by rintro ⟨⟩)
  | failed =>
    simp only [BatchFrame.attemptStatement, hphase, Action.moves, Option.some.injEq] at hm
    obtain ⟨rfl, rfl⟩ := Prod.mk.inj hm
    exact .single (.moved (.inr (.inl ⟨_, rfl⟩))) (by rintro ⟨⟩) (by rintro ⟨⟩) rfl rfl (by rintro ⟨⟩)
  | completed => simp [BatchFrame.attemptStatement, hphase, Action.moves] at hm

lemma At.moves (h : At i f ws) (hm : f.statement.moves d = some (f', ws')) : Moved i d f ws f' ws' := by
  cases h with
  | plain h =>
    cases f with
    | confirmUpload totalRows =>
      simp only [BatchFrame.statement, Action.moves, Option.some.injEq] at hm
      split at hm
      all_goals obtain ⟨rfl, rfl⟩ := Prod.mk.inj hm
      · exact .silent (.read trivial trivial rfl rfl rfl rfl) (by rintro ⟨⟩) rfl rfl
      · exact .silent (.aborted trivial rfl rfl (by simp)) (by rintro ⟨⟩) rfl rfl
    | updateMapping totalRows =>
      obtain ⟨rfl, rfl⟩ := Prod.mk.inj (Option.some.inj hm)
      exact .single .mapping (by rintro ⟨⟩) (by rintro ⟨⟩) rfl rfl (by rintro ⟨⟩)
    | submitMapping rows =>
      simp only [BatchFrame.statement, Action.moves, Option.some.injEq] at hm
      split at hm
      all_goals obtain ⟨rfl, rfl⟩ := Prod.mk.inj hm
      · exact .silent (.read trivial trivial rfl rfl rfl rfl) (by rintro ⟨⟩) rfl rfl
      · exact .silent (.aborted trivial rfl rfl (by simp)) (by rintro ⟨⟩) rfl rfl
    | deleteMany rows =>
      obtain ⟨rfl, rfl⟩ := Prod.mk.inj (Option.some.inj hm)
      exact .silent (.deleting (by simp)) (by rintro ⟨⟩) rfl rfl
    | deleteRows found rows => exact h.elim
    | createMany n left rows => exact h.elim
    | updateRow u =>
      simp only [BatchFrame.statement, Action.moves, Option.some.injEq] at hm
      split at hm
      all_goals obtain ⟨rfl, rfl⟩ := Prod.mk.inj hm
      · exact .silent (.read trivial trivial rfl rfl rfl rfl) (by rintro ⟨⟩) rfl rfl
      · exact .silent (.aborted trivial rfl rfl (by simp)) (by rintro ⟨⟩) rfl rfl
    | findRow u =>
      simp only [BatchFrame.statement, Action.moves, Option.some.injEq] at hm
      split at hm
      all_goals obtain ⟨rfl, rfl⟩ := Prod.mk.inj hm
      · exact .silent (.plain trivial) (by rintro ⟨⟩) rfl rfl
      · exact .silent (.aborted trivial rfl rfl (by simp)) (by rintro ⟨⟩) rfl rfl
    | updateFound u row =>
      simp only [BatchFrame.statement, Action.moves, Option.some.injEq] at hm
      split at hm
      all_goals obtain ⟨rfl, rfl⟩ := Prod.mk.inj hm
      · exact .single .updated (by rintro ⟨⟩) (by rintro ⟨⟩) rfl rfl (by rintro ⟨⟩)
      · exact .silent (.aborted trivial rfl rfl (by simp)) (by rintro ⟨⟩) rfl rfl
    | commit =>
      simp only [BatchFrame.statement, Action.moves, Option.some.injEq] at hm
      split at hm
      all_goals obtain ⟨rfl, rfl⟩ := Prod.mk.inj hm
      · exact .silent (.read trivial trivial rfl rfl rfl rfl) (by rintro ⟨⟩) rfl rfl
      · exact .silent (.aborted trivial rfl rfl (by simp)) (by rintro ⟨⟩) rfl rfl
    | updateMany =>
      simp only [BatchFrame.statement, Action.moves, Option.some.injEq] at hm
      split at hm
      all_goals obtain ⟨rfl, rfl⟩ := Prod.mk.inj hm
      · exact .silent (.plain trivial) (by rintro ⟨⟩) rfl rfl
      · exact .silent (.aborted trivial rfl rfl (by simp)) (by rintro ⟨⟩) rfl rfl
    | updateMatched =>
      simp only [BatchFrame.statement, Action.moves, Option.some.injEq] at hm
      split at hm
      next hstatus =>
        obtain ⟨rfl, rfl⟩ := Prod.mk.inj hm
        refine ⟨.importing, (by rintro ⟨⟩), fun _ => ⟨rfl, hstatus⟩, (by rintro ⟨⟩), ?_⟩
        rintro (hc | ⟨w, hw, hc⟩)
        · cases hc
        · obtain rfl := List.mem_singleton.mp hw
          cases hc
      next =>
        obtain ⟨rfl, rfl⟩ := Prod.mk.inj hm
        exact .silent (.aborted trivial rfl rfl (by simp)) (by rintro ⟨⟩) rfl rfl
    | addJob =>
      obtain ⟨rfl, rfl⟩ := Prod.mk.inj (Option.some.inj hm)
      refine ⟨.added, fun _ => .inl rfl, (by simp), fun _ => rfl, ?_⟩
      rintro (hc | ⟨w, hw, hc⟩)
      · cases hc
      · obtain rfl := List.mem_singleton.mp hw
        cases hc
    | jobAdded => exact h.elim
    | attempt token a job => exact attempt_moves h hm
    | markFound token a job row result rest =>
      obtain ⟨rfl, hwaiting, hprocessed⟩ := h
      simp only [BatchFrame.statement, Action.moves, Option.some.injEq] at hm
      split at hm
      all_goals obtain ⟨rfl, rfl⟩ := Prod.mk.inj hm
      · exact .single (.marked (nextRow_phase _ _) (caught_phase hwaiting)) (fun _ => .inl rfl) (by rintro ⟨⟩) rfl rfl (by rintro ⟨⟩)
      · refine .silent (.aborted rfl ?_ rfl (by simp)) (fun _ => rfl) rfl rfl
        simpa [BatchFrame.concludes] using (caught_phase hwaiting).2
    | updateCounts token a job imported failed skipped =>
      obtain ⟨rfl, hphase⟩ := h
      obtain ⟨rfl, rfl⟩ := Prod.mk.inj (Option.some.inj hm)
      have hlost : job.caught.phase ≠ .waiting ∧ job.caught.phase ≠ .processed := caught_phase (by simp [hphase])
      exact .single (.closed rfl hlost (.inl rfl)) (fun _ => .inl rfl) (by rintro ⟨⟩) rfl rfl (by rintro ⟨⟩)
    | checkStalled n =>
      obtain ⟨rfl, rfl⟩ := Prod.mk.inj (Option.some.inj hm)
      exact .single (.moved (.inr (.inr rfl))) (by rintro ⟨⟩) (by rintro ⟨⟩) rfl rfl (by rintro ⟨⟩)
    | ending next lost => exact h.elim
    | aborting next => exact h.elim
    | ended => cases hm
  | @deleting found rows _ h =>
    cases found with
    | nil =>
      obtain ⟨rfl, rfl⟩ := Prod.mk.inj (Option.some.inj hm)
      exact .silent (.creating h) (by rintro ⟨⟩) rfl rfl
    | cons row found =>
      obtain ⟨rfl, rfl⟩ := Prod.mk.inj (Option.some.inj hm)
      exact .replacing (.deleting (ofRows_snoc h rfl)) rfl (by rintro ⟨⟩) rfl rfl rfl
  | @creating n left rows _ h =>
    cases left with
    | nil =>
      obtain ⟨rfl, rfl⟩ := Prod.mk.inj (Option.some.inj hm)
      exact .replacing (.validated h) rfl (by rintro ⟨⟩) rfl rfl rfl
    | cons row left =>
      simp only [BatchFrame.statement, Action.moves, Option.some.injEq] at hm
      split at hm
      all_goals obtain ⟨rfl, rfl⟩ := Prod.mk.inj hm
      · exact .silent (.aborted trivial rfl rfl h) (by rintro ⟨⟩) rfl rfl
      · exact .replacing (.creating (ofRows_snoc h rfl)) rfl (by rintro ⟨⟩) rfl rfl rfl
  | aborted => cases hm
  | read => cases hm
  | mapping => cases hm
  | validated => cases hm
  | updated => cases hm
  | importing => cases hm
  | added => cases hm
  | taken => cases hm
  | marked => cases hm
  | closed => cases hm
  | moved => cases hm

lemma At.lost (h : At i f ws) : f.lost.Plain i ∧ f.lost.concludes = false ∧ f.lost.enqueues = false ∧
    (f.lost.follows = true → f.follows = true) := by
  have hcaught (a : Attempt) (job : ImportJob) (g : BatchFrame I)
      (hg : job.phase ≠ .waiting → g.follows = true) :
      (BatchFrame.attempt i a job.caught : BatchFrame I).Plain i ∧
        (BatchFrame.attempt i a job.caught : BatchFrame I).concludes = false ∧
        (BatchFrame.attempt i a job.caught : BatchFrame I).enqueues = false ∧
        ((BatchFrame.attempt i a job.caught : BatchFrame I).follows = true → g.follows = true) := by
    by_cases hphase : job.phase = .waiting
    · have hsame : job.caught = job := by simp [ImportJob.caught, hphase]
      rw [hsame]
      exact ⟨rfl, by simp [BatchFrame.concludes, hphase], rfl, fun hf => absurd hf (by simp [BatchFrame.follows, hphase])⟩
    · exact ⟨rfl, by simpa [BatchFrame.concludes] using (caught_phase hphase).2, rfl, fun _ => hg hphase⟩
  have hattempt {a : Attempt} {job : ImportJob} (hphase : job.phase ≠ .waiting ∧ job.phase ≠ .processed) :
      (BatchFrame.attempt i a job : BatchFrame I).Plain i ∧ (BatchFrame.attempt i a job : BatchFrame I).concludes = false ∧
        (BatchFrame.attempt i a job : BatchFrame I).enqueues = false :=
    ⟨rfl, by simpa [BatchFrame.concludes] using hphase.2, rfl⟩
  have hending (next lost : BatchFrame I) : lost.follows = true → (BatchFrame.ending next lost).follows = true := by
    intro hf
    simp [BatchFrame.follows, hf]
  cases h with
  | plain h =>
    cases f with
    | attempt token a job =>
      obtain rfl := h
      exact hcaught a job _ (fun hphase => by simpa [BatchFrame.follows] using hphase)
    | markFound token a job row result rest =>
      obtain ⟨rfl, _⟩ := h
      exact hcaught a job _ (fun _ => rfl)
    | updateCounts token a job imported failed skipped =>
      obtain ⟨rfl, _⟩ := h
      exact hcaught a job _ (fun _ => rfl)
    | ending next lost => exact h.elim
    | aborting next => exact h.elim
    | _ => exact ⟨trivial, rfl, rfl, nofun⟩
  | deleting h => exact ⟨trivial, rfl, rfl, nofun⟩
  | creating h => exact ⟨trivial, rfl, rfl, nofun⟩
  | aborted h hc he => exact ⟨h, hc, he, fun hf => hf⟩
  | read hn hl hnc hlc he hle => exact ⟨hl, hlc, hle, hending _ _⟩
  | mapping => exact ⟨trivial, rfl, rfl, nofun⟩
  | validated => exact ⟨trivial, rfl, rfl, nofun⟩
  | updated => exact ⟨trivial, rfl, rfl, nofun⟩
  | importing => exact ⟨trivial, rfl, rfl, nofun⟩
  | added => exact ⟨trivial, rfl, rfl, nofun⟩
  | taken => exact ⟨trivial, rfl, rfl, nofun⟩
  | marked h hl =>
    obtain ⟨hplain, hconcludes, henqueues⟩ := hattempt hl
    exact ⟨hplain, hconcludes, henqueues, hending _ _⟩
  | closed h hl hu =>
    obtain ⟨hplain, hconcludes, henqueues⟩ := hattempt hl
    exact ⟨hplain, hconcludes, henqueues, hending _ _⟩
  | moved h => exact ⟨trivial, rfl, rfl, nofun⟩

end Sessions

lemma run_writes {f : BatchFrame I} {next : BatchStore I → BatchFrame I × List (BatchWrite I)}
    (h : f.statement = .run next) (d : BatchStore I) : (next d).2 = [] ∨ (next d).2 = [.addJob] := by
  have hnil {r : BatchFrame I × List (BatchWrite I)} (hr : r.2 = []) : r.2 = [] ∨ r.2 = [.addJob] := .inl hr
  cases f with
  | deleteRows found rows => cases found <;> cases h; exact hnil rfl
  | createMany n left rows => cases left <;> cases h
  | addJob => cases h; exact .inr rfl
  | attempt token a job =>
    cases hphase : job.phase
    all_goals simp only [BatchFrame.statement, BatchFrame.attemptStatement, hphase, reduceCtorEq, Action.run.injEq] at h
    all_goals subst h
    all_goals first | exact hnil rfl | (dsimp only; split <;> exact hnil rfl)
  | _ => cases h <;> first | exact hnil rfl | (dsimp only; split <;> exact hnil rfl)

lemma lock_writes {f : BatchFrame I} {row : BatchLock} {next : BatchStore I → BatchFrame I × List (BatchWrite I)}
    (h : f.statement = .lock row next) (hrow : row ≠ .batch) (d : BatchStore I) :
    ∀ w ∈ (next d).2, w.ofBatch = false := by
  have hone {w : BatchWrite I} (hw : w.ofBatch = false) : ∀ w' ∈ [w], w'.ofBatch = false :=
    fun w' hmem => List.mem_singleton.mp hmem ▸ hw
  cases f with
  | updateMapping totalRows => cases h; exact absurd rfl hrow
  | deleteRows found rows =>
    cases found with
    | nil => cases h
    | cons row found => cases h; exact hone rfl
  | createMany n left rows =>
    cases left with
    | nil => cases h; exact absurd rfl hrow
    | cons row left =>
      cases h
      dsimp only
      split
      · rintro _ ⟨⟩
      · exact hone rfl
  | updateFound u row =>
    cases h
    dsimp only
    split
    · exact hone rfl
    · rintro _ ⟨⟩
  | updateMatched => cases h; exact absurd rfl hrow
  | attempt token a job =>
    cases hphase : job.phase
    all_goals simp only [BatchFrame.statement, BatchFrame.attemptStatement, hphase, reduceCtorEq, Action.lock.injEq] at h
    case waiting =>
      obtain ⟨rfl, rfl⟩ := h
      dsimp only
      split
      · split
        · exact hone rfl
        · rintro _ ⟨⟩
      · rintro _ ⟨⟩
    case processed => obtain ⟨rfl, rfl⟩ := h; exact hone rfl
    case markBatchFailed => exact absurd h.1.symm hrow
    case failed => obtain ⟨rfl, rfl⟩ := h; exact hone rfl
  | markFound token a job row result rest =>
    cases h
    dsimp only
    split
    · exact hone rfl
    · rintro _ ⟨⟩
  | updateCounts token a job imported failed skipped => cases h; exact absurd rfl hrow
  | checkStalled n => cases h; exact hone rfl
  | _ => cases h

variable [DecidableEq I]

lemma batch_locked : Locks (batchCode : Code (BatchStore I) _ _ _) .batch (fun w => w.ofBatch = true) where
  run f next d h w hw := by
    rcases run_writes h d with hnone | hjob
    · rw [hnone] at hw
      cases hw
    · rw [hjob, List.mem_singleton] at hw
      subst hw
      exact nofun
  lock f row next d h hrow w hw := by
    rw [lock_writes h hrow d w hw]
    exact nofun

end Truckmaster.Imports
