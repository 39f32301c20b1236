import Truckmaster.Imports.BatchPoints

namespace Truckmaster.Imports

open Common ReadCommitted Runs Tables

variable {I : Type}

def ImportBatchStatus.next : ImportBatchStatus → List ImportBatchStatus
  | .uploaded => [.mapping]
  | .mapping => [.validated]
  | .validated => [.importing]
  | .importing => [.complete, .failed]
  | .complete => [.importing]
  | .failed => []

def BatchStore.Reached (d : BatchStore I) : Prop :=
  d.batch.status = .importing ∨ d.batch.status = .complete ∨ d.batch.status = .failed

structure ImportBatchRow.Same (a b : ImportBatchRow) : Prop where
  id : b.id = a.id
  rowNumber : b.rowNumber = a.rowNumber
  mappedData : b.mappedData = a.mappedData
  parentLegalName : b.parentLegalName = a.parentLegalName
  duplicateWarning : b.duplicateWarning = a.duplicateWarning
  created : a.createdEntityId.isSome = true → b.createdEntityId.isSome = true

namespace BatchState

def status (s : BatchState I) : ImportBatchStatus := s.committed.batch.status

def Enqueues (s : BatchState I) (i : I) : Prop := (s.session i).frame.enqueues = true

def Unfinished (s : BatchState I) (n : ℕ) : Prop :=
  ∃ job ∈ s.committed.jobs[n]?, job.status = .waiting ∨
    job.status = .active ∧ ∀ i, job.token = some i → ¬ Concluding (s.session i)

def Pending (s : BatchState I) : Prop := ∃ job ∈ s.committed.jobs, job.status = .waiting ∨ job.status = .active

/-- When a session may commit a write: what its request has read before the transaction still holds, or nothing
comes of it. -/
def Timely [DecidableEq I] (s : BatchState I) : BatchWrite I → Prop
  | .updateBatch (.mapping _) => s.status = .uploaded ∨ s.status = .mapping
  | .updateBatch (.validated _ _ _) => s.status = .mapping ∨ s.status = .validated
  | .updateBatch .importing => True
  | .updateBatch (.complete _ _ _ _) => s.status = .importing ∨ s.status = .complete
  | .updateBatch (.failed _) => s.status = .importing ∨ s.status = .failed
  | .updateRow rowId _ true => ∀ row ∈ s.committed.rows.rows, row.id = rowId → row.createdEntityId = none
  | .moveJob n m =>
    -- the queue gives the job up: it has stalled again, or its attempts are over and the batch is not marked
    (∃ job ∈ s.committed.jobs[n]?, job.status = .active ∧ (job.move m).status = .failed) → s.status = .importing →
      (∃ i, s.Enqueues i) ∨ ∃ n' < s.committed.jobs.length, n' ≠ n ∧ s.Unfinished n'
  | _ => True

/-- A session commits only what is timely, and no commit request is lost between its status write and its job. -/
def Undisturbed [DecidableEq I] (s : BatchState I) : Event I → Prop
  | .advance i => (s.session i).frame.statement.commits = true → ∀ w ∈ (s.session i).writes, s.Timely w
  | .fail i => s.Enqueues i → s.status = .importing →
      (∃ j, j ≠ i ∧ s.Enqueues j) ∨ ∃ n < s.committed.jobs.length, s.Unfinished n

end BatchState

/-- A row that has an entity is not VALID, and an IMPORTED one has an entity; both only once a commit was accepted. -/
def BatchStore.RowsKept (d : BatchStore I) : Prop :=
  ∀ row ∈ d.rows.rows, (row.status = .imported → row.createdEntityId.isSome = true) ∧
    (row.createdEntityId.isSome = true → row.status ≠ .valid ∧ d.Reached)

structure BatchStore.After (d d' : BatchStore I) : Prop where
  status : d'.batch.status = d.batch.status ∨ d'.batch.status ∈ d.batch.status.next
  rows : d.Reached → List.Forall₂ ImportBatchRow.Same d.rows.rows d'.rows.rows
  reached : d.Reached → d'.Reached

def BatchState.Awaited (s : BatchState I) : Prop := (∃ i, s.Enqueues i) ∨ ∃ n, s.Unfinished n

structure BatchState.Kept (s : BatchState I) : Prop where
  guards : Guards s .batch (fun w => w.ofBatch = true)
  point : ∀ i, At i (s.session i).frame (s.session i).writes
  importing : ∀ i, .updateBatch .importing ∈ (s.session i).writes → s.status = .validated ∨ s.status = .complete
  follows : ∀ i, (s.session i).frame.follows = true → s.committed.Reached
  jobs : s.committed.jobs ≠ [] → s.committed.Reached
  rows : s.committed.RowsKept
  awaited : s.status = .importing → s.Awaited

lemma CommitJob.move_cases [DecidableEq I] (job : CommitJob I) (m : JobMove I) :
    job.move m = job ∨ (∃ token, m = .take token ∧ job.move m = { job with status := .active, token := some token }) ∨
      (job.move m).status = .waiting ∨ (job.status = .active ∧ (job.move m).status = .failed) ∨
      ∃ token, m = .complete token ∧ job.status = .active ∧ job.token = some token := by
  cases m with
  | take token =>
    by_cases hwaiting : job.status = .waiting
    · exact .inr (.inl ⟨token, rfl, if_pos hwaiting⟩)
    · exact .inl (if_neg hwaiting)
  | complete token =>
    by_cases hheld : job.status = .active ∧ job.token = some token
    · exact .inr (.inr (.inr (.inr ⟨token, rfl, hheld⟩)))
    · exact .inl (if_neg hheld)
  | fail token made =>
    by_cases hheld : job.status = .active ∧ job.token = some token
    · by_cases hmore : made + 1 < maxAttempts
      · exact .inr (.inr (.inl (by simp [move, hheld, hmore])))
      · exact .inr (.inr (.inr (.inl ⟨hheld.1, by simp [move, hheld, hmore]⟩)))
    · exact .inl (if_neg hheld)
  | stall =>
    by_cases hactive : job.status = .active
    · by_cases hlast : maxStalledCount < job.stalledCounter + 1
      · exact .inr (.inr (.inr (.inl ⟨hactive, by simp [move, hactive, hlast]⟩)))
      · exact .inr (.inr (.inl (by simp [move, hactive, hlast])))
    · exact .inl (if_neg hactive)

lemma ImportBatchRow.Same.refl (row : ImportBatchRow) : row.Same row := ⟨rfl, rfl, rfl, rfl, rfl, fun h => h⟩

lemma ImportBatchRow.Same.trans {a b c : ImportBatchRow} (h : a.Same b) (h' : b.Same c) : a.Same c where
  id := h'.id.trans h.id
  rowNumber := h'.rowNumber.trans h.rowNumber
  mappedData := h'.mappedData.trans h.mappedData
  parentLegalName := h'.parentLegalName.trans h.parentLegalName
  duplicateWarning := h'.duplicateWarning.trans h.duplicateWarning
  created hcreated := h'.created (h.created hcreated)

lemma same_trans {rows rows' rows'' : List ImportBatchRow} (h : List.Forall₂ ImportBatchRow.Same rows rows')
    (h' : List.Forall₂ ImportBatchRow.Same rows' rows'') : List.Forall₂ ImportBatchRow.Same rows rows'' := by
  induction h generalizing rows'' with
  | nil => exact h'
  | cons hrow _ ih =>
    cases h' with
    | cons hrow' hrest' => exact .cons (hrow.trans hrow') (ih hrest')

lemma same_mem {rows rows' : List ImportBatchRow} {row : ImportBatchRow} (h : List.Forall₂ ImportBatchRow.Same rows rows')
    (hrow : row ∈ rows) : ∃ row' ∈ rows', row.Same row' := by
  induction h with
  | nil => cases hrow
  | @cons a b _ _ hab _ ih =>
    rcases List.mem_cons.mp hrow with rfl | hrest
    · exact ⟨b, List.mem_cons_self, hab⟩
    · obtain ⟨row', hmem, hsame⟩ := ih hrest
      exact ⟨row', List.mem_cons_of_mem _ hmem, hsame⟩

lemma ImportBatchRow.same_updated (acknowledgeDuplicate resetToValid : Bool) (row : ImportBatchRow) :
    row.Same (row.updated acknowledgeDuplicate resetToValid) := by
  unfold ImportBatchRow.updated
  split <;> exact ⟨rfl, rfl, rfl, rfl, rfl, fun h => h⟩

lemma ImportBatchRow.same_marked (result : RowResult) (now : Instant) (row : ImportBatchRow) :
    row.Same (row.marked result now) := by
  cases result with
  | imported entityId => exact ⟨rfl, rfl, rfl, rfl, rfl, fun _ => rfl⟩
  | failed message => exact ⟨rfl, rfl, rfl, rfl, rfl, fun h => h⟩
  | skipped message => exact ⟨rfl, rfl, rfl, rfl, rfl, fun h => h⟩

lemma same_update (rows : Table ImportBatchRow.id) (rowId : Uuid) {f : ImportBatchRow → ImportBatchRow}
    (hf : ∀ row, (f row).id = row.id) (hsame : ∀ row : ImportBatchRow, row.Same (f row)) :
    List.Forall₂ ImportBatchRow.Same rows.rows (rows.update rowId f hf).rows := by
  rw [Table.update_rows, List.forall₂_map_right_iff, List.forall₂_same]
  intro row _
  split
  · exact hsame row
  · exact .refl row

namespace BatchStore.After

variable {d d' d'' : BatchStore I}

lemma of_same (hbatch : d'.batch.status = d.batch.status)
    (hrows : List.Forall₂ ImportBatchRow.Same d.rows.rows d'.rows.rows) : d.After d' :=
  ⟨.inl hbatch, fun _ => hrows, fun h => by rwa [BatchStore.Reached, hbatch]⟩

lemma refl (d : BatchStore I) : d.After d := .of_same rfl (List.forall₂_same.mpr (fun row _ => .refl row))

end BatchStore.After

namespace BatchState

section Steps

variable [DecidableEq I] {s t : BatchState I} {i : I} {e : Event I}

lemma Unfinished.put {x : Session (BatchFrame I) (BatchWrite I)} {n : ℕ} (h : s.Unfinished n)
    (hjobs : t.committed.jobs[n]? = s.committed.jobs[n]?) (hsession : t.session = Function.update s.session i x)
    (hconcluding : Concluding x → Concluding (s.session i)) : t.Unfinished n := by
  obtain ⟨job, hjob, hstatus⟩ := h
  refine ⟨job, hjobs ▸ hjob, hstatus.imp_right (fun hactive => ⟨hactive.1, fun j hj hc => ?_⟩)⟩
  rw [hsession] at hc
  by_cases hij : j = i
  · subst hij
    rw [Function.update_self] at hc
    exact hactive.2 j hj (hconcluding hc)
  · rw [Function.update_of_ne hij] at hc
    exact hactive.2 j hj hc

lemma Enqueues.put {x : Session (BatchFrame I) (BatchWrite I)} {j : I} (h : s.Enqueues j)
    (hsession : t.session = Function.update s.session i x) (hx : j = i → x.frame.enqueues = true) : t.Enqueues j := by
  rw [Enqueues, hsession]
  by_cases hij : j = i
  · subst hij
    rw [Function.update_self]
    exact hx rfl
  · rwa [Function.update_of_ne hij]

lemma Kept.put {x : Session (BatchFrame I) (BatchWrite I)} (h : s.Kept) (hguards : Guards t .batch (fun w => w.ofBatch = true))
    (hcommitted : t.committed = s.committed) (hsession : t.session = Function.update s.session i x)
    (hpoint : At i x.frame x.writes) (hfollows : x.frame.follows = true → s.committed.Reached)
    (himporting : .updateBatch .importing ∈ x.writes → s.status = .validated ∨ s.status = .complete)
    (hawaited : s.status = .importing → t.Awaited) : t.Kept := by
  have hstatus : t.status = s.status := congrArg (fun d => d.batch.status) hcommitted
  have hall {P : I → Session (BatchFrame I) (BatchWrite I) → Prop} (hi : P i x) (hs : ∀ j, P j (s.session j)) (j : I) :
      P j (t.session j) := by
    rw [hsession]
    by_cases hij : j = i
    · subst hij
      rwa [Function.update_self]
    · rw [Function.update_of_ne hij]
      exact hs j
  refine ⟨hguards, ?_, ?_, ?_, ?_, ?_, ?_⟩
  · exact hall (P := fun j x => At j x.frame x.writes) hpoint h.point
  · rw [hstatus]
    exact hall (P := fun _ x => .updateBatch .importing ∈ x.writes → s.status = .validated ∨ s.status = .complete)
      himporting h.importing
  · rw [hcommitted]
    exact hall (P := fun _ x => x.frame.follows = true → s.committed.Reached) hfollows h.follows
  · rw [hcommitted]
    exact h.jobs
  · rw [hcommitted]
    exact h.rows
  · rw [hstatus]
    exact hawaited

lemma Kept.moves (h : s.Kept) {r : BatchFrame I × List (BatchWrite I)} (owner : BatchLock → Option I)
    (hguards : Guards (t : BatchState I) .batch (fun w => w.ofBatch = true)) (ht : t = { s.write i r with owner })
    (hm : (s.session i).frame.statement.moves (visible batchCode s i) = some r) : t.Kept := by
  have hmoved : Moved i _ _ _ r.1 r.2 := (h.point i).moves hm
  have hread (hws : (s.session i).writes = []) : visible batchCode s i = s.committed := by
    rw [visible, hws, Code.applyAll_nil]
  subst ht
  refine h.put (x := ⟨r.1, (s.session i).writes ++ r.2⟩) hguards rfl rfl hmoved.point (fun hf => ?_) (fun hmem => ?_)
    (fun hstatus => ?_)
  · rcases hmoved.follows hf with hold | ⟨hws, hjobs⟩
    · exact h.follows i hold
    · exact h.jobs (hread hws ▸ hjobs)
  · rcases List.mem_append.mp hmem with hold | hnew
    · exact h.importing i hold
    · obtain ⟨hws, hstatus⟩ := hmoved.importing hnew
      rwa [hread hws] at hstatus
  · rcases h.awaited hstatus with ⟨j, hj⟩ | ⟨n, hn⟩
    · exact .inl ⟨j, hj.put rfl (fun hij => hmoved.enqueues (hij ▸ hj))⟩
    · exact .inr ⟨n, hn.put rfl rfl hmoved.concluding⟩

lemma Kept.undone (h : s.Kept) {next : BatchFrame I} (hguards : Guards (s.finish i s.committed next : BatchState I) .batch
      (fun w => w.ofBatch = true)) (hplain : next.Plain i) (hconcludes : next.concludes = false)
    (hfollows : next.follows = true → (s.session i).frame.follows = true)
    (hawaited : s.Enqueues i → s.status = .importing → (∃ j, j ≠ i ∧ s.Enqueues j) ∨ ∃ n, s.Unfinished n) :
    Kept (s.finish i s.committed next) := by
  have hconcluding : ¬ Concluding (⟨next, []⟩ : Session (BatchFrame I) (BatchWrite I)) := by
    rintro (hc | ⟨w, hw, _⟩)
    · exact absurd (hconcludes.symm.trans hc) nofun
    · cases hw
  refine h.put (x := ⟨next, []⟩) hguards rfl rfl (.plain hplain) (fun hf => h.follows i (hfollows hf)) nofun
    (fun hstatus => ?_)
  have hothers : (∃ j, j ≠ i ∧ s.Enqueues j) ∨ ∃ n, s.Unfinished n := by
    rcases h.awaited hstatus with ⟨j, hj⟩ | hunfinished
    · by_cases hij : j = i
      · exact hawaited (hij ▸ hj) hstatus
      · exact .inl ⟨j, hij, hj⟩
    · exact .inr hunfinished
  rcases hothers with ⟨j, hij, hj⟩ | ⟨n, hn⟩
  · exact .inl ⟨j, hj.put rfl (fun heq => absurd heq hij)⟩
  · exact .inr ⟨n, hn.put rfl rfl (fun hc => absurd hc hconcluding)⟩

lemma Kept.committed (h : s.Kept) {d : BatchStore I} {next : BatchFrame I}
    (hguards : Guards (s.finish i d next : BatchState I) .batch (fun w => w.ofBatch = true)) (hplain : next.Plain i)
    (hafter : s.committed.After d) (hfollows : next.follows = true → d.Reached) (hjobs : d.jobs ≠ [] → d.Reached)
    (hrows : d.RowsKept)
    (hbatch : (∃ w ∈ (s.session i).writes, w.ofBatch = true) ∨ d.batch.status = s.committed.batch.status)
    (hawaited : d.batch.status = .importing → Awaited (s.finish i d next)) :
    Kept (s.finish i d next) := by
  have hall {P : I → Session (BatchFrame I) (BatchWrite I) → Prop} (hi : P i ⟨next, []⟩)
      (hs : ∀ j, j ≠ i → P j (s.session j)) (j : I) : P j ((s.finish i d next).session j) := by
    rw [finish_session]
    by_cases hij : j = i
    · subst hij
      rwa [Function.update_self]
    · rw [Function.update_of_ne hij]
      exact hs j hij
  refine ⟨hguards, ?_, ?_, ?_, hjobs, hrows, hawaited⟩
  · exact hall (P := fun j x => At j x.frame x.writes) (.plain hplain) (fun j _ => h.point j)
  · refine hall (P := fun _ x => .updateBatch .importing ∈ x.writes → d.batch.status = .validated ∨ d.batch.status = .complete)
      nofun (fun j hij hmem => ?_)
    rcases hbatch with hown | hsame
    · exact absurd (h.guards.alone ⟨_, hmem, rfl⟩ hown) hij
    · rw [hsame]
      exact h.importing j hmem
  · exact hall (P := fun _ x => x.frame.follows = true → d.Reached) hfollows
      (fun j _ hf => hafter.reached (h.follows j hf))

lemma Awaited.finish {d : BatchStore I} {next : BatchFrame I} (h : s.Awaited) (hjobs : d.jobs = s.committed.jobs)
    (hx : (s.session i).frame.enqueues = false) (hc : next.concludes = false) : Awaited (s.finish i d next) := by
  have hconcluding : ¬ Concluding (⟨next, []⟩ : Session (BatchFrame I) (BatchWrite I)) := by
    rintro (hf | ⟨w, hw, _⟩)
    · exact absurd (hc.symm.trans hf) nofun
    · cases hw
  rcases h with ⟨j, hj⟩ | ⟨n, hn⟩
  · refine .inl ⟨j, hj.put rfl (fun hij => ?_)⟩
    subst hij
    exact absurd (hx.symm.trans hj) nofun
  · exact .inr ⟨n, hn.put (congrArg (·[n]?) hjobs) rfl (fun hf => absurd hf hconcluding)⟩

lemma Kept.updateBatch (h : s.Kept) {u : BatchUpdate} {next : BatchFrame I}
    (hguards : Guards (s.finish i (BatchStore.write (.updateBatch u) s.committed) next : BatchState I) .batch
      (fun w => w.ofBatch = true))
    (hwrites : (s.session i).writes = [.updateBatch u]) (hplain : next.Plain i)
    (hmove : u.status = s.status ∨ u.status ∈ s.status.next)
    (hreached : s.committed.Reached → (BatchStore.write (.updateBatch u) s.committed).Reached)
    (hfollows : next.follows = true → (BatchStore.write (.updateBatch u) s.committed).Reached)
    (hawaited : u.status = .importing → next.enqueues = true) :
    Kept (s.finish i (BatchStore.write (.updateBatch u) s.committed) next) ∧
      s.committed.After (BatchStore.write (.updateBatch u) s.committed) := by
  have hstatus : (BatchStore.write (.updateBatch u) s.committed).batch.status = u.status := u.write_status _
  have hafter : s.committed.After (BatchStore.write (.updateBatch u) s.committed) := by
    refine ⟨?_, fun _ => List.forall₂_same.mpr (fun row _ => .refl row), hreached⟩
    rwa [hstatus]
  refine ⟨h.committed hguards hplain hafter hfollows (fun hjobs => hreached (h.jobs hjobs)) (fun row hrow => ?_) (.inl ?_)
    (fun himporting => .inl ⟨i, ?_⟩), hafter⟩
  · obtain ⟨himported, hcreated⟩ := h.rows row hrow
    exact ⟨himported, fun hsome => ⟨(hcreated hsome).1, hreached (hcreated hsome).2⟩⟩
  · rw [hwrites]
    exact ⟨_, List.mem_singleton_self _, rfl⟩
  · rw [Enqueues, finish_session, Function.update_self]
    exact hawaited (hstatus.symm.trans himporting)

lemma Kept.updateRow (h : s.Kept) {rowId : Uuid} {f : ImportBatchRow → ImportBatchRow} {next : BatchFrame I}
    (hf : ∀ row, (f row).id = row.id) (hsame : ∀ row : ImportBatchRow, row.Same (f row))
    (hguards : Guards (s.finish i { s.committed with rows := s.committed.rows.update rowId f hf } next : BatchState I)
      .batch (fun w => w.ofBatch = true)) (hplain : next.Plain i) (hx : (s.session i).frame.enqueues = false)
    (hconcludes : next.concludes = false) (hfollows : next.follows = true → s.committed.Reached)
    (hrow : ∀ row ∈ s.committed.rows.rows, row.id = rowId →
      ((f row).status = .imported → (f row).createdEntityId.isSome = true) ∧
        ((f row).createdEntityId.isSome = true → (f row).status ≠ .valid ∧ s.committed.Reached)) :
    Kept (s.finish i { s.committed with rows := s.committed.rows.update rowId f hf } next) ∧
      s.committed.After { s.committed with rows := s.committed.rows.update rowId f hf } := by
  have hafter : s.committed.After { s.committed with rows := s.committed.rows.update rowId f hf } :=
    .of_same rfl (same_update _ _ hf hsame)
  refine ⟨h.committed hguards hplain hafter hfollows h.jobs (fun row hmem => ?_) (.inr rfl)
    (fun himporting => (h.awaited himporting).finish rfl hx hconcludes), hafter⟩
  rcases (Table.mem_update s.committed.rows rowId f hf).mp hmem with ⟨old, hold, hid, rfl⟩ | ⟨hold, _⟩
  · exact hrow old hold hid
  · exact h.rows row hold

lemma applyAll_rows (ws : List (BatchWrite I)) (d : BatchStore I) (hws : ∀ w ∈ ws, w.ofRows = true)
    (hd : ∀ row ∈ d.rows.rows, row.createdEntityId = none ∧ row.status ≠ .imported) :
    (∀ row ∈ (batchCode.applyAll ws d).rows.rows, row.createdEntityId = none ∧ row.status ≠ .imported) ∧
      (batchCode.applyAll ws d).jobs = d.jobs ∧ (batchCode.applyAll ws d).batch = d.batch := by
  induction ws generalizing d with
  | nil => exact ⟨hd, rfl, rfl⟩
  | cons w ws ih =>
    obtain ⟨hw, hrest⟩ := List.forall_mem_cons.mp hws
    rw [Code.applyAll_cons]
    cases w with
    | deleteRow rowId => exact ih (BatchStore.write (.deleteRow rowId) d) hrest (fun row hrow => hd row (List.mem_filter.mp hrow).1)
    | createRow rowNumber new =>
      refine ih (BatchStore.write (.createRow rowNumber new) d) hrest (fun row hrow => ?_)
      cases hinsert : d.rows.insert (new.create rowNumber) with
      | none =>
        rw [BatchStore.write, hinsert] at hrow
        exact hd row hrow
      | some rows =>
        rw [BatchStore.write, hinsert] at hrow
        have hmem : row ∈ d.rows.rows ++ [new.create rowNumber] := Table.insert_rows hinsert ▸ hrow
        rcases List.mem_append.mp hmem with hold | hnew
        · exact hd row hold
        · obtain rfl := List.mem_singleton.mp hnew
          refine ⟨rfl, ?_⟩
          simp only [MappedRow.create]
          split <;> exact nofun
    | _ => cases hw

lemma Kept.validated (h : s.Kept) {ws : List (BatchWrite I)} {total valid invalid : ℕ}
    (hws : ∀ w ∈ ws, w.ofRows = true) (hwrites : (s.session i).writes = ws ++ [.updateBatch (.validated total valid invalid)])
    (hguards : Guards (s.finish i (visible batchCode s i) .ended : BatchState I) .batch (fun w => w.ofBatch = true))
    (hstatus : s.status = .mapping ∨ s.status = .validated) :
    Kept (s.finish i (visible batchCode s i) .ended) ∧ s.committed.After (visible batchCode s i) := by
  have hearly : ¬ s.committed.Reached := by
    rintro (hr | hr | hr) <;> rcases hstatus with hs | hs <;> exact absurd (hs.symm.trans hr) nofun
  have hnone : ∀ row ∈ s.committed.rows.rows, row.createdEntityId = none ∧ row.status ≠ .imported := by
    intro row hrow
    obtain ⟨himported, hcreated⟩ := h.rows row hrow
    have hid : row.createdEntityId = none := by
      by_contra hsome
      exact hearly (hcreated (Option.isSome_iff_ne_none.mpr hsome)).2
    refine ⟨hid, fun hstatus => ?_⟩
    have hsome := himported hstatus
    rw [hid] at hsome
    cases hsome
  obtain ⟨hrows, hjobs, hbatch⟩ := applyAll_rows ws s.committed hws hnone
  have hvisible : visible batchCode s i =
      BatchStore.write (.updateBatch (.validated total valid invalid)) (batchCode.applyAll ws s.committed) := by
    rw [visible, hwrites, Code.applyAll_append]
    rfl
  rw [hvisible] at hguards ⊢
  have hafter : s.committed.After
      (BatchStore.write (.updateBatch (.validated total valid invalid)) (batchCode.applyAll ws s.committed)) := by
    refine ⟨?_, fun hr => absurd hr hearly, fun hr => absurd hr hearly⟩
    rcases hstatus with hs | hs
    · refine .inr ?_
      rw [show s.committed.batch.status = .mapping from hs]
      exact List.mem_singleton_self _
    · exact .inl hs.symm
  refine ⟨h.committed hguards trivial hafter nofun (fun hne => ?_) (fun row hrow => ?_) (.inl ?_) nofun, hafter⟩
  · exact absurd (h.jobs (fun hnil => hne (hjobs.trans hnil))) hearly
  · obtain ⟨hid, himported⟩ := hrows row hrow
    exact ⟨fun heq => absurd heq himported, fun hsome => absurd hsome (by simp [hid])⟩
  · exact ⟨_, hwrites ▸ List.mem_append_right _ (List.mem_singleton_self _), rfl⟩

lemma Kept.updateJobs (h : s.Kept) {jobs : List (CommitJob I)} {next : BatchFrame I}
    (hguards : Guards (s.finish i { s.committed with jobs } next : BatchState I) .batch (fun w => w.ofBatch = true))
    (hplain : next.Plain i) (hfollows : next.follows = true → s.committed.Reached)
    (hjobs : jobs ≠ [] → s.committed.Reached)
    (hawaited : s.status = .importing → Awaited (s.finish i { s.committed with jobs } next)) :
    Kept (s.finish i { s.committed with jobs } next) ∧ s.committed.After { s.committed with jobs } := by
  have hafter : s.committed.After { s.committed with jobs } :=
    .of_same rfl (List.forall₂_same.mpr (fun row _ => .refl row))
  exact ⟨h.committed hguards hplain hafter hfollows hjobs h.rows (.inr rfl) hawaited, hafter⟩

lemma awaited_of_job {jobs : List (CommitJob I)} {next : BatchFrame I} {n : ℕ} {job : CommitJob I}
    (hjob : jobs[n]? = some job) (hstatus : job.status = .waiting) :
    Awaited (s.finish i { s.committed with jobs } next) :=
  .inr ⟨n, job, hjob, .inl hstatus⟩

lemma Awaited.moveJob (h : s.Awaited) {n : ℕ} {m : JobMove I} {next : BatchFrame I}
    (hx : (s.session i).frame.enqueues = false) (hc : next.concludes = false)
    (htake : ∀ token, m = .take token → token = i)
    (hcomplete : ∀ token, m = .complete token → token = i ∧ Concluding (s.session i))
    (hgiven : (∃ job ∈ s.committed.jobs[n]?, job.status = .active ∧ (job.move m).status = .failed) →
      (∃ i, s.Enqueues i) ∨ ∃ n' < s.committed.jobs.length, n' ≠ n ∧ s.Unfinished n') :
    Awaited (s.finish i { s.committed with jobs := s.committed.jobs.modify n (·.move m) } next) := by
  have hconcluding : ¬ Concluding (⟨next, []⟩ : Session (BatchFrame I) (BatchWrite I)) := by
    rintro (hf | ⟨w, hw, _⟩)
    · exact absurd (hc.symm.trans hf) nofun
    · cases hw
  have henqueues {j : I} (hj : s.Enqueues j) :
      Awaited (s.finish i { s.committed with jobs := s.committed.jobs.modify n (·.move m) } next) := by
    refine .inl ⟨j, hj.put rfl (fun hij => ?_)⟩
    subst hij
    exact absurd (hx.symm.trans hj) nofun
  have hother {n' : ℕ} (hne : n' ≠ n) (hn : s.Unfinished n') :
      Awaited (s.finish i { s.committed with jobs := s.committed.jobs.modify n (·.move m) } next) := by
    refine .inr ⟨n', hn.put ?_ rfl (fun hf => absurd hf hconcluding)⟩
    exact List.getElem?_modify_ne _ _ hne.symm
  rcases h with ⟨j, hj⟩ | ⟨n', hn⟩
  · exact henqueues hj
  · by_cases hne : n' = n
    · subst hne
      obtain ⟨job, hjob, hstatus⟩ := id hn
      have hafter : (s.committed.jobs.modify n' (·.move m))[n']? = some (job.move m) := by
        rw [List.getElem?_modify_eq, Option.mem_def.mp hjob]
        rfl
      rcases job.move_cases m with hsame | ⟨token, rfl, htaken⟩ | hwaiting | ⟨hactive, hfailed⟩ | ⟨token, rfl, hactive, htoken⟩
      · refine .inr ⟨n', hn.put ?_ rfl (fun hf => absurd hf hconcluding)⟩
        exact hafter.trans (by rw [hsame, Option.mem_def.mp hjob])
      · obtain rfl := htake token rfl
        refine .inr ⟨n', _, hafter, .inr ⟨by rw [htaken], fun j hj => ?_⟩⟩
        rw [htaken] at hj
        obtain rfl := Option.some.inj hj
        rw [finish_session, Function.update_self]
        exact hconcluding
      · exact awaited_of_job hafter hwaiting
      · rcases hgiven ⟨job, hjob, hactive, hfailed⟩ with ⟨j, hj⟩ | ⟨n'', _, hne, hn''⟩
        · exact henqueues hj
        · exact hother hne hn''
      · obtain ⟨rfl, hown⟩ := hcomplete token rfl
        rcases hstatus with hwaiting | ⟨_, hnone⟩
        · exact absurd (hactive.symm.trans hwaiting) nofun
        · exact absurd hown (hnone _ htoken)
    · exact hother hne hn

lemma batch_written {u : BatchUpdate} (hwrites : (s.session i).writes = [.updateBatch u]) :
    visible batchCode s i = BatchStore.write (.updateBatch u) s.committed := by
  rw [visible, hwrites]
  rfl

lemma Kept.commit (h : s.Kept) (hguard : s.Undisturbed (.advance i)) {next : BatchFrame I}
    (hact : (s.session i).frame.statement = .commit next)
    (hguards : Guards (s.finish i (visible batchCode s i) next : BatchState I) .batch (fun w => w.ofBatch = true)) :
    Kept (s.finish i (visible batchCode s i) next) ∧ s.committed.After (visible batchCode s i) := by
  have htimely : ∀ w ∈ (s.session i).writes, s.Timely w := hguard (by rw [hact]; rfl)
  have hpoint := h.point i
  have hfollows := h.follows i
  have hnothing {f lost : BatchFrame I} (hframe : (s.session i).frame = .ending f lost) :
      next = f ∧ (s.session i).frame.enqueues = false := by
    rw [hframe] at hact ⊢
    exact ⟨(Action.commit.inj hact).symm, rfl⟩
  generalize hframe : (s.session i).frame = f at hpoint
  generalize hwrites : (s.session i).writes = ws at hpoint htimely
  cases hpoint with
  | plain hplain =>
    rcases commit_frame (hframe ▸ hact) with ⟨lost, rfl⟩ | rfl
    · exact hplain.elim
    · exact hplain.elim
  | deleting => rcases commit_frame (hframe ▸ hact) with ⟨lost, heq⟩ | heq <;> cases heq
  | creating => rcases commit_frame (hframe ▸ hact) with ⟨lost, heq⟩ | heq <;> cases heq
  | aborted => rcases commit_frame (hframe ▸ hact) with ⟨lost, heq⟩ | heq <;> cases heq
  | read hn hl hnc hlc he hle =>
    obtain ⟨rfl, hx⟩ := hnothing hframe
    have hvisible : visible batchCode s i = s.committed := by rw [visible, hwrites, Code.applyAll_nil]
    rw [hvisible] at hguards ⊢
    refine ⟨h.committed hguards hn (.refl _) (fun hf => hfollows ?_) h.jobs h.rows (.inr rfl)
      (fun himporting => (h.awaited himporting).finish rfl hx hnc), .refl _⟩
    rw [hframe]
    simp [BatchFrame.follows, hf, he]
  | mapping =>
    obtain ⟨rfl, _⟩ := hnothing hframe
    rw [batch_written hwrites] at hguards ⊢
    have hstatus : s.status = .uploaded ∨ s.status = .mapping := htimely _ (List.mem_singleton_self _)
    refine h.updateBatch hguards hwrites trivial ?_ (fun hr => ?_) (by rintro ⟨⟩) (by rintro ⟨⟩)
    · rcases hstatus with hs | hs
      · exact .inr (by rw [hs]; exact List.mem_singleton_self _)
      · exact .inl hs.symm
    · rcases hr with hr | hr | hr <;> rcases hstatus with hs | hs <;> exact absurd (hs.symm.trans hr) (by rintro ⟨⟩)
  | validated hws =>
    obtain ⟨rfl, _⟩ := hnothing hframe
    exact h.validated hws hwrites hguards (htimely _ (List.mem_append_right _ (List.mem_singleton_self _)))
  | @updated rowId acknowledge reset =>
    obtain ⟨rfl, hx⟩ := hnothing hframe
    have hvisible : visible batchCode s i = BatchStore.write (.updateRow rowId acknowledge reset) s.committed := by
      rw [visible, hwrites]
      rfl
    rw [hvisible] at hguards ⊢
    refine h.updateRow (ImportBatchRow.updated_id acknowledge reset) (ImportBatchRow.same_updated acknowledge reset)
      hguards trivial hx rfl (by rintro ⟨⟩) (fun row hrow hid => ?_)
    cases reset with
    | false => exact h.rows row hrow
    | true =>
      have hnone : row.createdEntityId = none := htimely _ (List.mem_singleton_self _) row hrow hid
      exact ⟨(by rintro ⟨⟩), fun hsome => absurd hsome (by simp [ImportBatchRow.updated, hnone])⟩
  | importing =>
    obtain ⟨rfl, _⟩ := hnothing hframe
    rw [batch_written hwrites] at hguards ⊢
    have hstatus := h.importing i (hwrites ▸ List.mem_singleton_self _)
    refine h.updateBatch hguards hwrites trivial ?_ (fun _ => .inl rfl) (fun _ => .inl rfl) (fun _ => rfl)
    rcases hstatus with hs | hs
    · exact .inr (by rw [hs]; exact List.mem_singleton_self _)
    · exact .inr (by rw [hs]; exact List.mem_singleton_self _)
  | added =>
    have hreached : s.committed.Reached := hfollows (by rw [hframe]; rfl)
    rw [hframe] at hact
    obtain rfl := Action.commit.inj hact
    have hvisible : visible batchCode s i = { s.committed with jobs := s.committed.jobs ++ [{}] } := by
      rw [visible, hwrites]
      rfl
    rw [hvisible] at hguards ⊢
    refine h.updateJobs hguards trivial (by rintro ⟨⟩) (fun _ => hreached) (fun _ => ?_)
    have hadded : (s.committed.jobs ++ [({} : CommitJob I)])[s.committed.jobs.length]? = some {} := by simp
    exact awaited_of_job hadded rfl
  | @taken a made =>
    obtain ⟨rfl, hx⟩ := hnothing hframe
    have hreached : s.committed.Reached := hfollows (by rw [hframe]; rfl)
    have hvisible : visible batchCode s i =
        { s.committed with jobs := s.committed.jobs.modify a.job (·.move (.take i)) } := by
      rw [visible, hwrites]
      rfl
    rw [hvisible] at hguards ⊢
    refine h.updateJobs hguards rfl (fun _ => hreached) (fun _ => hreached) (fun himporting => ?_)
    exact (h.awaited himporting).moveJob hx rfl (fun token htoken => (JobMove.take.inj htoken).symm) (by simp)
      (fun hgiven => htimely _ (List.mem_singleton_self _) hgiven himporting)
  | @marked a job lost rowId result now hphase hlost =>
    obtain ⟨rfl, hx⟩ := hnothing hframe
    have hreached : s.committed.Reached := hfollows (by rw [hframe]; simp [BatchFrame.follows, hlost.1])
    have hvisible : visible batchCode s i = BatchStore.write (.markRow rowId result now) s.committed := by
      rw [visible, hwrites]
      rfl
    rw [hvisible] at hguards ⊢
    refine h.updateRow (ImportBatchRow.marked_id result now) (ImportBatchRow.same_marked result now) hguards rfl hx ?_
      (fun _ => hreached) (fun row hrow hid => ?_)
    · simpa [BatchFrame.concludes] using hphase.2
    · cases result with
      | imported entityId => exact ⟨fun _ => rfl, fun _ => ⟨(by rintro ⟨⟩), hreached⟩⟩
      | failed message => exact ⟨(by rintro ⟨⟩), fun _ => ⟨(by rintro ⟨⟩), hreached⟩⟩
      | skipped message => exact ⟨(by rintro ⟨⟩), fun _ => ⟨(by rintro ⟨⟩), hreached⟩⟩
  | @closed a job lost u hphase hlost hu =>
    obtain ⟨rfl, _⟩ := hnothing hframe
    rw [batch_written hwrites] at hguards ⊢
    have hreached : (BatchStore.write (.updateBatch u) s.committed).Reached := by
      rw [BatchStore.Reached, BatchStore.write, BatchUpdate.write_status]
      exact .inr hu
    refine h.updateBatch hguards hwrites rfl ?_ (fun _ => hreached) (fun _ => hreached)
      (fun himporting => absurd himporting (by rcases hu with hu | hu <;> simp [hu]))
    have hown : s.Timely (.updateBatch u) := htimely _ (List.mem_singleton_self _)
    cases u with
    | complete imported failed skipped now =>
      rcases hown with hs | hs
      · exact .inr (by rw [hs]; exact List.mem_cons_self)
      · exact .inl hs.symm
    | failed now =>
      rcases hown with hs | hs
      · exact .inr (by rw [hs]; exact List.mem_cons_of_mem _ List.mem_cons_self)
      · exact .inl hs.symm
    | _ => rcases hu with hu | hu <;> cases hu
  | @moved n m hm =>
    obtain ⟨rfl, hx⟩ := hnothing hframe
    have hvisible : visible batchCode s i = { s.committed with jobs := s.committed.jobs.modify n (·.move m) } := by
      rw [visible, hwrites]
      rfl
    rw [hvisible] at hguards ⊢
    refine h.updateJobs hguards trivial (by rintro ⟨⟩) (fun hne => h.jobs (fun hnil => hne ?_)) (fun himporting => ?_)
    · rw [hnil, List.modify_nil]
    · refine (h.awaited himporting).moveJob hx rfl (fun token htoken => ?_) (fun token htoken => ?_)
        (fun hgiven => htimely _ (List.mem_singleton_self _) hgiven himporting)
      · subst htoken
        rcases hm with hm | ⟨_, hm⟩ | hm <;> cases hm
      · subst htoken
        rcases hm with hm | ⟨_, hm⟩ | hm
        · refine ⟨JobMove.complete.inj hm, .inr ⟨_, hwrites ▸ List.mem_singleton_self _, rfl⟩⟩
        · cases hm
        · cases hm

lemma Kept.step (h : s.Kept) (hguard : s.Undisturbed e) (hstep : batchStep s e = some t) :
    t.Kept ∧ s.committed.After t.committed := by
  have hguards : Guards t .batch (fun w => w.ofBatch = true) := batch_locked.guards h.guards hstep
  cases e with
  | fail i =>
    obtain rfl := Option.some.inj hstep
    obtain ⟨hplain, hconcludes, _, hfollows⟩ := (h.point i).lost
    refine ⟨h.undone hguards hplain hconcludes hfollows (fun henqueues himporting => ?_), .refl _⟩
    exact (hguard henqueues himporting).imp_right (fun ⟨n, _, hn⟩ => ⟨n, hn⟩)
  | advance i =>
    cases ha : (s.session i).frame.statement with
    | run next =>
      have hmoved := hstep
      simp only [batchStep, ReadCommitted.step, batchCode, ha, Option.some.injEq] at hmoved
      refine ⟨h.moves s.owner hguards hmoved.symm (by rw [ha]; rfl), ?_⟩
      rw [← hmoved]
      exact .refl _
    | lock row next =>
      have hmoved := hstep
      simp only [batchStep, ReadCommitted.step, batchCode, ha, Option.ite_none_right_eq_some, Option.some.injEq] at hmoved
      refine ⟨h.moves (s.take i row).owner hguards hmoved.2.symm (by rw [ha]; rfl), ?_⟩
      rw [← hmoved.2]
      exact .refl _
    | commit next =>
      have hmoved := hstep
      simp only [batchStep, ReadCommitted.step, batchCode, ha, Option.some.injEq] at hmoved
      subst hmoved
      exact h.commit hguard ha hguards
    | rollback next =>
      have hmoved := hstep
      simp only [batchStep, ReadCommitted.step, batchCode, ha, Option.some.injEq] at hmoved
      subst hmoved
      refine ⟨?_, .refl _⟩
      have hpoint := h.point i
      have hframe := rollback_frame ha
      rw [hframe] at hpoint
      generalize (s.session i).writes = ws at hpoint
      cases hpoint with
      | plain hplain => exact hplain.elim
      | aborted hplain hconcludes henqueues hws =>
        refine h.undone hguards hplain hconcludes (fun hf => ?_) (fun hen => ?_)
        · rw [hframe]
          exact hf
        · rw [Enqueues, hframe] at hen
          cases hen
    | stop => simp [batchStep, ReadCommitted.step, batchCode, ha] at hstep

end Steps

structure Orderly [DecidableEq I] (u v : BatchState I) : Prop where
  moves : ∀ e w, Guarded (Enabled batchStep) Undisturbed v e w → w.status = v.status ∨ w.status ∈ v.status.next
  rows : u.status = .importing → List.Forall₂ ImportBatchRow.Same u.committed.rows.rows v.committed.rows.rows
  imported : ∀ row ∈ u.committed.rows.rows, row.status = .imported →
    ∀ row' ∈ v.committed.rows.rows, row'.id = row.id → row'.status ≠ .valid
  job : v.status = .importing → (∀ i, ¬ v.Enqueues i) → v.Pending

section Runs

variable [DecidableEq I] {batch : ImportBatch} {requests : I → BatchRequest} {s u v : BatchState I} {ds es : List (Event I)}

omit [DecidableEq I] in
lemma kept_uploaded (batch : ImportBatch) (requests : I → BatchRequest) : (uploaded batch requests).Kept where
  guards := guards_begin _ _
  point i := by
    refine .plain ?_
    rw [uploaded, begin]
    cases h : requests i <;> simp only [h, BatchRequest.start] <;> trivial
  importing i h := by cases h
  follows i h := by
    rw [uploaded, begin] at h
    cases hr : requests i <;> simp [hr, BatchRequest.start, BatchFrame.follows] at h
  jobs h := absurd rfl h
  rows row h := by cases h
  awaited h := by cases h

lemma Kept.run (h : u.Kept) (hv : Run (Guarded (Enabled batchStep) Undisturbed) u es v) :
    v.Kept ∧ (u.committed.Reached → List.Forall₂ ImportBatchRow.Same u.committed.rows.rows v.committed.rows.rows) := by
  induction hv with
  | nil s => exact ⟨h, fun _ => List.forall₂_same.mpr (fun row _ => .refl row)⟩
  | @cons s t w e es he _ ih =>
    obtain ⟨hkept, hafter⟩ := h.step he.2 he.1
    obtain ⟨hend, hrows⟩ := ih hkept
    refine ⟨hend, fun hr => ?_⟩
    exact same_trans (hafter.rows hr) (hrows (hafter.reached hr))

omit [DecidableEq I] in
lemma Kept.pending (h : s.Kept) (hstatus : s.status = .importing) (hnone : ∀ i, ¬ s.Enqueues i) : s.Pending := by
  rcases h.awaited hstatus with ⟨i, hi⟩ | ⟨n, job, hjob, hwaits⟩
  · exact absurd hi (hnone i)
  · exact ⟨job, List.mem_of_getElem? hjob, hwaits.imp_right And.left⟩

theorem batch_states_in_order (hu : Run (Guarded (Enabled batchStep) Undisturbed) (uploaded batch requests) ds u)
    (hv : Run (Guarded (Enabled batchStep) Undisturbed) u es v) : u.Orderly v := by
  obtain ⟨hfirst, _⟩ := (kept_uploaded batch requests).run hu
  obtain ⟨hlast, hrows⟩ := hfirst.run hv
  refine ⟨fun e w he => ?_, fun hstatus => hrows (.inl hstatus), fun row hrow himported row' hrow' hid => ?_, hlast.pending⟩
  · exact (hlast.step he.2 he.1).2.status
  · have hsome := (hfirst.rows row hrow).1 himported
    have hreached := ((hfirst.rows row hrow).2 hsome).2
    obtain ⟨kept, hmem, hsame⟩ := same_mem (hrows hreached) hrow
    obtain rfl := v.committed.rows.eq_of_key hrow' hmem (hid.trans hsame.id.symm)
    exact ((hlast.rows row' hrow').2 (hsame.created hsome)).1

end Runs

section Decidable

variable [DecidableEq I] [Fintype I] (s : BatchState I)

instance (x : Session (BatchFrame I) (BatchWrite I)) : Decidable (Concluding x) :=
  inferInstanceAs (Decidable (x.frame.concludes = true ∨ ∃ w ∈ x.writes, w.completes = true))

instance (i : I) : Decidable (s.Enqueues i) := inferInstanceAs (Decidable ((s.session i).frame.enqueues = true))

instance (n : ℕ) : Decidable (s.Unfinished n) :=
  inferInstanceAs (Decidable (∃ job ∈ s.committed.jobs[n]?, job.status = .waiting ∨
    job.status = .active ∧ ∀ i, job.token = some i → ¬ Concluding (s.session i)))

instance : (w : BatchWrite I) → Decidable (s.Timely w)
  | .updateBatch (.mapping _) => inferInstanceAs (Decidable (s.status = .uploaded ∨ s.status = .mapping))
  | .updateBatch (.validated _ _ _) => inferInstanceAs (Decidable (s.status = .mapping ∨ s.status = .validated))
  | .updateBatch .importing => .isTrue trivial
  | .updateBatch (.complete _ _ _ _) => inferInstanceAs (Decidable (s.status = .importing ∨ s.status = .complete))
  | .updateBatch (.failed _) => inferInstanceAs (Decidable (s.status = .importing ∨ s.status = .failed))
  | .updateRow rowId _ true =>
    inferInstanceAs (Decidable (∀ row ∈ s.committed.rows.rows, row.id = rowId → row.createdEntityId = none))
  | .updateRow _ _ false => .isTrue trivial
  | .moveJob n m =>
    inferInstanceAs (Decidable ((∃ job ∈ s.committed.jobs[n]?, job.status = .active ∧ (job.move m).status = .failed) →
      s.status = .importing → (∃ i, s.Enqueues i) ∨ ∃ n' < s.committed.jobs.length, n' ≠ n ∧ s.Unfinished n'))
  | .deleteRow _ => .isTrue trivial
  | .createRow _ _ => .isTrue trivial
  | .markRow _ _ _ => .isTrue trivial
  | .addJob => .isTrue trivial

instance : (e : Event I) → Decidable (s.Undisturbed e)
  | .advance i => inferInstanceAs (Decidable ((s.session i).frame.statement.commits = true →
      ∀ w ∈ (s.session i).writes, s.Timely w))
  | .fail i => inferInstanceAs (Decidable (s.Enqueues i → s.status = .importing →
      (∃ j, j ≠ i ∧ s.Enqueues j) ∨ ∃ n < s.committed.jobs.length, s.Unfinished n))

end Decidable

namespace Sample

def customers : ImportBatch where
  id := 1
  entityType := .customer
  totalRows := 0
  validRowCount := 0
  invalidRowCount := 0
  createdByUserId := 9

def requests : Fin 5 → BatchRequest :=
  ![.confirmUpload 1, .submitMapping [{ id := 11 }], .submitMapping [{ id := 12 }], .commit,
    .attempt ⟨0, fun _ => .ok 0, fun _ _ => .ok 77, 60⟩]

def goes (i : Fin 5) (statements : ℕ) : List (Event (Fin 5)) := List.replicate statements (.advance i)

def imported : List (Event (Fin 5)) := goes 0 4 ++ goes 1 7 ++ goes 3 7 ++ goes 4 11

def finished : List (Event (Fin 5)) := goes 4 5

def mapsTwice : List (Event (Fin 5)) := goes 0 4 ++ goes 2 2 ++ goes 1 7 ++ goes 3 7 ++ goes 4 11

def dies : List (Event (Fin 5)) := goes 0 4 ++ goes 1 7 ++ goes 3 5 ++ [.fail 3]

end Sample

open Sample

theorem batch_states_in_order_sample : ∃ u v, Run (Enabled batchStep) (uploaded customers requests) imported u ∧
    Run (Enabled batchStep) u finished v ∧ u.status = .importing ∧ v.status = .complete ∧ u.Orderly v := by
  have hends : ((imported.foldlM (checked batchStep Undisturbed) (uploaded customers requests)).any
      (fun u => u.status = .importing ∧ (finished.foldlM (checked batchStep Undisturbed) u).any
        (fun v => v.status = .complete))) = true := by decide +kernel
  obtain ⟨u, hu, hrest⟩ := (Option.any_eq_true _ _).mp hends
  obtain ⟨hstatus, hrest⟩ := of_decide_eq_true hrest
  obtain ⟨v, hv, hcomplete⟩ := (Option.any_eq_true _ _).mp hrest
  have hfirst := run_checked hu
  have hlast := run_checked hv
  exact ⟨u, v, hfirst.unguarded, hlast.unguarded, hstatus, of_decide_eq_true hcomplete, batch_states_in_order hfirst hlast⟩

theorem mapped_again_while_importing :
    (∃ u v, Run (Enabled batchStep) (uploaded customers requests) mapsTwice u ∧ Run (Enabled batchStep) u (goes 2 6) v ∧
      u.status = .importing ∧ u.committed.rows.rows.map (fun row => (row.id, row.status)) = [(11, .imported)] ∧
      v.status = .validated ∧ v.committed.rows.rows.map (fun row => (row.id, row.status)) = [(12, .valid)]) ∧
    (∃ v, Run (Enabled batchStep) (uploaded customers requests) dies v ∧ v.status = .importing ∧
      (∀ i, ¬ v.Enqueues i) ∧ v.committed.jobs = []) := by
  have hmapped : (mapsTwice.foldlM batchStep (uploaded customers requests)).any
      (fun u => u.status = .importing ∧ u.committed.rows.rows.map (fun row => (row.id, row.status)) = [(11, .imported)] ∧
        ((goes 2 6).foldlM batchStep u).any (fun v => v.status = .validated ∧
          v.committed.rows.rows.map (fun row => (row.id, row.status)) = [(12, .valid)])) = true := by decide +kernel
  have hdied : (dies.foldlM batchStep (uploaded customers requests)).any
      (fun v => v.status = .importing ∧ (∀ i, ¬ v.Enqueues i) ∧ v.committed.jobs = []) = true := by decide +kernel
  obtain ⟨u, hu, hfirst⟩ := (Option.any_eq_true _ _).mp hmapped
  obtain ⟨hstatus, hrows, hlast⟩ := of_decide_eq_true hfirst
  obtain ⟨v, hv, hreplaced⟩ := (Option.any_eq_true _ _).mp hlast
  obtain ⟨w, hw, hlost⟩ := (Option.any_eq_true _ _).mp hdied
  exact ⟨⟨u, v, (run_enabled_iff _ _ _ _).mpr hu, (run_enabled_iff _ _ _ _).mpr hv, hstatus, hrows,
    of_decide_eq_true hreplaced⟩, w, (run_enabled_iff _ _ _ _).mpr hw, of_decide_eq_true hlost⟩

end BatchState

end Truckmaster.Imports
